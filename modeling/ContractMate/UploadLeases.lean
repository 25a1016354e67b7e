import ContractMate.RunHistory
import ContractMate.UploadReservations

/-!
# Leases of upload reservations

Whatever the clients of an account do with a reservation, at most one of its
leases runs at a time, a holder that nobody superseded can finalise, a superseded
holder cannot, a consumed reservation stays consumed until its retention ends,
and quota is charged once in the life of the reservation's key.
-/

namespace ContractMate

open PythonText RunHistory

section Values

variable {leaseId other : Text} {expiry : Nat} {now : RedisTime}

theorem matchLeaseExpiry_append (start : Text) {digits : Text}
    (nonempty : digits ≠ []) (allDigits : digits.all Char.isDigit = true) :
    matchLeaseExpiry (start ++ ':' :: digits) =
      some (Nat.ofDigitChars 10 digits 0) := by
  induction start with
  | nil => simp only [List.nil_append, matchLeaseExpiry, nonempty, allDigits,
      ne_eq, not_false_eq_true, and_self, if_true]
  | cons character rest induction =>
      have colon : (rest ++ ':' :: digits).all Char.isDigit = false := by
        have notDigit : Char.isDigit ':' = false := by decide
        simp [notDigit]
      simp only [List.cons_append, matchLeaseExpiry, colon, Bool.false_eq_true,
        and_false, if_false, induction]

/-- The script reads back the expiry that it wrote. -/
theorem matchLeaseExpiry_leasedValue :
    matchLeaseExpiry (leasedValue leaseId expiry) = some expiry := by
  have allDigits : (Nat.toDigits 10 expiry).all Char.isDigit = true := by
    rw [List.all_eq_true]
    intro digit member
    exact Nat.isDigit_of_mem_toDigits (by decide) (by decide) member
  rw [leasedValue, matchLeaseExpiry_append _ Nat.toDigits_ne_nil allDigits,
    Nat.ofDigitChars_ten_toDigits]

theorem take_leasedValue :
    (leasedValue leaseId expiry).take 7 = leasedPrefix := by
  have length : leasedPrefix.length = 7 := by decide
  rw [leasedValue, List.append_assoc, ← length, List.take_left]

theorem runningLease_leasedValue :
    runningLease (leasedValue leaseId expiry) now =
      if now.wholeSeconds < expiry then some expiry else none := by
  rw [runningLease, if_pos take_leasedValue, matchLeaseExpiry_leasedValue]
  by_cases running : now.wholeSeconds < expiry
  · simp [running]
  · simp [running, not_lt.mp running]

/-- The test of the finalize script, on a leased value. -/
theorem take_leasedValue_eq_iff (expiry : Nat) (sameLength : leaseId.length = other.length) :
    (leasedValue leaseId expiry).take (7 + other.length) =
        leasedPrefix ++ other ↔ leaseId = other := by
  have length : leasedPrefix.length = 7 := by decide
  have held : (leasedPrefix ++ leaseId).length = 7 + other.length := by
    simp [length, sameLength]
  rw [leasedValue, ← held, List.take_left, List.append_cancel_left_eq]

/-- The test of the finalize script fails on the other values. -/
theorem take_ne_of_not_leased {value : Text}
    (unleased : value.take 7 ≠ leasedPrefix) :
    value.take (7 + leaseId.length) ≠ leasedPrefix ++ leaseId := by
  intro held
  apply unleased
  have length : leasedPrefix.length = 7 := by decide
  have shorter := congrArg (List.take 7) held
  rw [List.take_take, min_eq_left (Nat.le_add_right 7 leaseId.length)] at shorter
  rw [shorter, ← length, List.take_left]

theorem take_reservedValue : reservedValue.take 7 ≠ leasedPrefix := by decide

theorem take_consumedValue : consumedValue.take 7 ≠ leasedPrefix := by decide

end Values

section Effects

/-- The key of a reservation whose lease ended in the state. -/
def FinalState.finalKey (state : FinalState) (now : RedisTime)
    (reservedUntil : Option Nat) : RedisKey Text :=
  match state with
  | .consumed =>
      ⟨consumedValue, some (RedisKey.expiry now consumedReservationTtlSeconds)⟩
  | .reserved => ⟨reservedValue, reservedUntil⟩

variable {Key : Type} [DecidableEq Key]

namespace LimiterStep

variable (limits : WindowLimits) (reservationKey : Text → Key)
  (step : LimiterStep Key) (key : Key)

/-- The call acquires a lease of the key that runs until `expiry`. -/
def Grants (leaseId : Text) (expiry : Nat) : Prop :=
  ∃ pathname leaseSeconds retry,
    step.call = .acquireUploadReservation pathname leaseSeconds leaseId ∧
      reservationKey pathname = key ∧
      step.result limits reservationKey = .lease .acquired retry ∧
      expiry = step.time.wholeSeconds + leaseSeconds.toNat

/-- The call finalises a lease of the key to the given state. -/
def FinalizesTo (leaseId : Text) (state : FinalState) : Prop :=
  ∃ pathname,
    step.call = .finalizeUploadReservation pathname leaseId state ∧
      reservationKey pathname = key ∧
      step.result limits reservationKey = .finalized true

/-- The call charges quota for the key: it is admitted anew, or it writes to the
quota's keys. -/
def Charges : Prop :=
  ∃ pathname ttlSeconds units observe,
    step.call = .reserveUpload pathname ttlSeconds units observe ∧
      reservationKey pathname = key ∧
      ((∃ reply, step.result limits reservationKey = .reservation reply ∧
          reply.action = 1 ∧ reply.windows.allowed = true) ∨
        (step.after limits reservationKey).quota ≠ step.before.quota)

/-- The key is missing when the call comes. -/
def Misses : Prop :=
  RedisKey.get (step.before.reservations key) step.time = none

/-- What a call can do to one reservation key. -/
inductive Effect : Option (RedisKey Text) → Prop
  | kept (noGrant : ∀ leaseId expiry,
        ¬ step.Grants limits reservationKey key leaseId expiry)
      (noFinal : ∀ leaseId state,
        ¬ step.FinalizesTo limits reservationKey key leaseId state) :
      Effect (step.before.reservations key)
  | reserved (deadline : Nat) (missing : step.Misses key)
      (noGrant : ∀ leaseId expiry,
        ¬ step.Grants limits reservationKey key leaseId expiry)
      (noFinal : ∀ leaseId state,
        ¬ step.FinalizesTo limits reservationKey key leaseId state) :
      Effect (some ⟨reservedValue, some deadline⟩)
  | leased (leaseId : Text) (expiry deadline : Nat) (live : RedisKey Text)
      (found : RedisKey.get (step.before.reservations key) step.time =
        some live)
      (idle : runningLease live.value step.time = none)
      (unconsumed : live.value ≠ consumedValue)
      (grants : step.Grants limits reservationKey key leaseId expiry)
      (noFinal : ∀ leaseId state,
        ¬ step.FinalizesTo limits reservationKey key leaseId state)
      (late : expiry * 1000 + 300000 ≤ deadline) :
      Effect (some ⟨leasedValue leaseId expiry, some deadline⟩)
  | finalized (leaseId : Text) (state : FinalState) (live after : RedisKey Text)
      (found : RedisKey.get (step.before.reservations key) step.time =
        some live)
      (held : live.value.take (7 + leaseId.length) = leasedPrefix ++ leaseId)
      (noGrant : ∀ leaseId expiry,
        ¬ step.Grants limits reservationKey key leaseId expiry)
      (finalizes : step.FinalizesTo limits reservationKey key leaseId state)
      (only : ∀ other state',
        step.FinalizesTo limits reservationKey key other state' →
          other = leaseId ∧ state' = state)
      (written : after = state.finalKey step.time after.expiresAt) :
      Effect (some after)

end LimiterStep

variable {limits : WindowLimits} {reservationKey : Text → Key}
  {step : LimiterStep Key} {key : Key}

theorem LimiterStep.effect_of_kept
    (kept : (step.after limits reservationKey).reservations key =
      step.before.reservations key)
    (noGrant : ∀ leaseId expiry,
      ¬ step.Grants limits reservationKey key leaseId expiry)
    (noFinal : ∀ leaseId state,
      ¬ step.FinalizesTo limits reservationKey key leaseId state) :
    step.Effect limits reservationKey key
      ((step.after limits reservationKey).reservations key) := by
  rw [kept]
  exact .kept noGrant noFinal

/-- The acquire script: a lease of an idle key, or nothing. -/
theorem acquireReservationScript_cases (leaseId : Text) (leaseSeconds : Nat)
    (now : RedisTime) (reservation : Option (RedisKey Text))
    {outcome : (Nat × Nat) × Option (RedisKey Text)}
    (run : acquireReservationScript leaseId leaseSeconds
      uploadLeaseRecoveryGraceSeconds now reservation = outcome) :
    (outcome.1.1 ≠ 1 ∧ outcome.2 = reservation) ∨
      ∃ live deadline,
        RedisKey.get reservation now = some live ∧
          runningLease live.value now = none ∧ live.value ≠ consumedValue ∧
          (now.wholeSeconds + leaseSeconds) * 1000 + 300000 ≤ deadline ∧
          outcome.1 = (1, leaseSeconds) ∧
          outcome.2 =
            some ⟨leasedValue leaseId (now.wholeSeconds + leaseSeconds),
              some deadline⟩ := by
  unfold acquireReservationScript at run
  cases found : RedisKey.get reservation now with
  | none =>
      left
      simp [← run, found]
  | some live =>
      simp only [found] at run
      by_cases unconsumed : live.value = consumedValue
      · left
        simp [← run, unconsumed]
      · rw [if_neg unconsumed] at run
        cases idle : runningLease live.value now with
        | some expiry =>
            left
            simp [← run, idle]
        | none =>
            simp only [idle] at run
            by_cases available : live.value = reservedValue ∨
                live.value.take 7 = leasedPrefix
            · right
              rw [if_pos available] at run
              subst run
              refine ⟨live, _, rfl, idle, unconsumed, ?_, rfl, rfl⟩
              have seconds : now.wholeSeconds * 1000 ≤ now.millis := by
                simp only [RedisTime.wholeSeconds, RedisTime.millis]
                omega
              have enough : leaseSeconds + 300 ≤
                  (max (RedisKey.ttl reservation now)
                    ((leaseSeconds + 300 : Nat) : Int)).toNat := by
                rw [Int.le_toNat (le_max_of_le_right (Int.natCast_nonneg _))]
                exact le_max_right _ _
              calc (now.wholeSeconds + leaseSeconds) * 1000 + 300000
                  = now.wholeSeconds * 1000 + (leaseSeconds + 300) * 1000 := by
                    ring
                _ ≤ _ := Nat.add_le_add seconds (Nat.mul_le_mul_right _ enough)
            · left
              simp [← run, available]

/-- The finalize script: the end of the lease it names, or nothing. -/
theorem finalizeReservationScript_cases (leaseId : Text) (state : FinalState)
    (now : RedisTime) (reservation : Option (RedisKey Text))
    {outcome : Nat × Option (RedisKey Text)}
    (run : finalizeReservationScript leaseId state
      consumedReservationTtlSeconds now reservation = outcome) :
    (outcome.1 = 0 ∧ outcome.2 = reservation) ∨
      ∃ live deadline,
        RedisKey.get reservation now = some live ∧
          live.value.take (7 + leaseId.length) = leasedPrefix ++ leaseId ∧
          outcome.1 = 1 ∧
          outcome.2 =
            match state with
            | .consumed => some ⟨consumedValue,
                some (RedisKey.expiry now consumedReservationTtlSeconds)⟩
            | .reserved => some ⟨reservedValue, some deadline⟩ := by
  unfold finalizeReservationScript at run
  cases found : RedisKey.get reservation now with
  | none =>
      left
      simp [← run, found]
  | some live =>
      simp only [found] at run
      by_cases held : live.value.take (7 + leaseId.length) =
          leasedPrefix ++ leaseId
      · rw [if_neg (not_not.mpr held)] at run
        by_cases gone : RedisKey.pttl reservation now ≤ 0
        · left
          simp [← run, gone]
        · right
          rw [if_neg gone] at run
          refine ⟨live, now.millis + (RedisKey.pttl reservation now).toNat, rfl,
            held, ?_, ?_⟩
          · cases state <;> simp [← run]
          · cases state <;> simp [← run]
      · left
        simp [← run, held]

/-- The reservation script writes the reservation of a missing key only. -/
theorem reserveUploadScript_cases (limits : WindowLimits)
    (units reservationTtl : Nat) (observe : Bool) (now : RedisTime)
    (keys : QuotaKeys × Option (RedisKey Text))
    {outcome : ReservationReply × QuotaKeys × Option (RedisKey Text)}
    (run : reserveUploadScript limits units reservationTtl observe now keys =
      outcome) :
    outcome.2.2 = keys.2 ∨
      RedisKey.get keys.2 now = none ∧
        outcome.2.2 =
          some ⟨reservedValue, some (RedisKey.expiry now reservationTtl)⟩ := by
  unfold reserveUploadScript at run
  cases found : RedisKey.get keys.2 now with
  | some live =>
      left
      simp [← run, found]
  | none =>
      simp only [found] at run
      by_cases refused : ((readWindows limits units now keys.1).denied limits units
          && !observe) = true
      · left
        simp [← run, refused]
      · right
        rw [if_neg refused] at run
        refine ⟨rfl, ?_⟩
        by_cases denied :
            (readWindows limits units now keys.1).denied limits units = true
        · simp [← run, denied]
        · simp [← run, denied]

theorem leaseStatus_eq_acquired_iff {action : Nat} :
    leaseStatus action = .acquired ↔ action = 1 := by
  unfold leaseStatus
  split_ifs <;> simp_all

private theorem noGrant_of_call
    (otherCall : ∀ pathname leaseSeconds leaseId, reservationKey pathname = key →
      step.call ≠ .acquireUploadReservation pathname leaseSeconds leaseId)
    (leaseId : Text) (expiry : Nat) :
    ¬ step.Grants limits reservationKey key leaseId expiry := by
  rintro ⟨pathname, leaseSeconds, _, called, keyed, _⟩
  exact otherCall pathname leaseSeconds leaseId keyed called

private theorem noFinal_of_call
    (otherCall : ∀ pathname leaseId state, reservationKey pathname = key →
      step.call ≠ .finalizeUploadReservation pathname leaseId state)
    (leaseId : Text) (state : FinalState) :
    ¬ step.FinalizesTo limits reservationKey key leaseId state := by
  rintro ⟨pathname, called, keyed, _⟩
  exact otherCall pathname leaseId state keyed called

theorem LimiterStep.effect (step : LimiterStep Key) (key : Key) :
    step.Effect limits reservationKey key
      ((step.after limits reservationKey).reservations key) := by
  cases called : step.call with
  | consume units =>
      refine effect_of_kept ?_ (noGrant_of_call (by simp [called]))
        (noFinal_of_call (by simp [called]))
      by_cases invalid : units < 1
      · simp [after, LimiterCall.run, called, invalid]
      · simp [after, LimiterCall.run, called, invalid]
  | reserveUpload pathname ttlSeconds units observe =>
      have noGrant (leaseId : Text) (expiry : Nat) :
          ¬ step.Grants limits reservationKey key leaseId expiry :=
        noGrant_of_call (by simp [called]) leaseId expiry
      have noFinal (leaseId : Text) (state : FinalState) :
          ¬ step.FinalizesTo limits reservationKey key leaseId state :=
        noFinal_of_call (by simp [called]) leaseId state
      by_cases invalid : pathname = [] ∨ units < 1
      · exact effect_of_kept (by simp [after, LimiterCall.run, called, invalid]) noGrant
          noFinal
      · by_cases keyed : reservationKey pathname = key
        · subst keyed
          rcases reserveUploadScript_cases limits units.toNat
            (max 1 ttlSeconds).toNat observe step.time
            (step.before.quota, step.before.reservations (reservationKey pathname)) rfl with
            kept | ⟨missing, written⟩
          · refine effect_of_kept ?_ noGrant noFinal
            simpa [after, LimiterCall.run, called, invalid] using kept
          · have written : (step.after limits reservationKey).reservations
                (reservationKey pathname) = some ⟨reservedValue,
                  some (RedisKey.expiry step.time (max 1 ttlSeconds).toNat)⟩ := by
              simpa [after, LimiterCall.run, called, invalid] using written
            rw [written]
            exact .reserved _ missing noGrant noFinal
        · refine effect_of_kept ?_ noGrant noFinal
          simp [after, LimiterCall.run, called, invalid,
            Function.update_of_ne (Ne.symm keyed)]
  | acquireUploadReservation pathname leaseSeconds leaseId =>
      have noFinal (other : Text) (state : FinalState) :
          ¬ step.FinalizesTo limits reservationKey key other state :=
        noFinal_of_call (by simp [called]) other state
      by_cases invalid : pathname = [] ∨ leaseSeconds < 1
      · refine effect_of_kept ?_ ?_ noFinal
        · rcases invalid with empty | short
          · simp [after, LimiterCall.run, called, empty]
          · by_cases empty : pathname = []
            · simp [after, LimiterCall.run, called, empty]
            · simp [after, LimiterCall.run, called, empty, short]
        · rintro other expiry ⟨_, _, retry, _, _, granted, _⟩
          rcases invalid with empty | short
          · simp [result, LimiterCall.run, called, empty] at granted
          · by_cases empty : pathname = []
            · simp [result, LimiterCall.run, called, empty] at granted
            · simp [result, LimiterCall.run, called, empty, short] at granted
      · obtain ⟨nonempty, long⟩ := not_or.mp invalid
        by_cases keyed : reservationKey pathname = key
        · subst keyed
          rcases acquireReservationScript_cases leaseId leaseSeconds.toNat step.time
            (step.before.reservations (reservationKey pathname)) rfl with
            ⟨refused, kept⟩ | ⟨live, deadline, found, idle, unconsumed, late,
              acquired, written⟩
          · refine effect_of_kept ?_ ?_ noFinal
            · simpa [after, LimiterCall.run, called, nonempty, long] using kept
            · rintro other expiry ⟨_, _, retry, _, _, granted, _⟩
              simp [result, LimiterCall.run, called, nonempty, long,
                leaseStatus_eq_acquired_iff] at granted
              exact refused granted.1
          · have written : (step.after limits reservationKey).reservations
                (reservationKey pathname) = some ⟨leasedValue leaseId
                  (step.time.wholeSeconds + leaseSeconds.toNat), some deadline⟩ := by
              simpa [after, LimiterCall.run, called, nonempty, long] using written
            rw [written]
            refine .leased leaseId _ deadline live found idle unconsumed
              ⟨pathname, leaseSeconds, some leaseSeconds.toNat, called, rfl, ?_,
                rfl⟩ noFinal late
            simp [result, LimiterCall.run, called, nonempty, long, acquired, leaseStatus]
        · refine effect_of_kept ?_ ?_ noFinal
          · simp [after, LimiterCall.run, called, nonempty, long,
              Function.update_of_ne (Ne.symm keyed)]
          · rintro other expiry ⟨_, _, retry, called', keyed', _⟩
            cases called.symm.trans called'
            exact keyed keyed'
  | finalizeUploadReservation pathname leaseId state =>
      have noGrant (other : Text) (expiry : Nat) :
          ¬ step.Grants limits reservationKey key other expiry :=
        noGrant_of_call (by simp [called]) other expiry
      by_cases keyed : reservationKey pathname = key
      · subst keyed
        rcases finalizeReservationScript_cases leaseId state step.time
          (step.before.reservations (reservationKey pathname)) rfl with
          ⟨refused, kept⟩ | ⟨live, deadline, found, held, done, written⟩
        · refine effect_of_kept ?_ noGrant ?_
          · simpa [after, LimiterCall.run, called] using kept
          · rintro other state' ⟨_, _, _, finalized⟩
            simp [result, LimiterCall.run, called, refused] at finalized
        · have finalizes : step.FinalizesTo limits reservationKey
              (reservationKey pathname) leaseId state := by
            refine ⟨pathname, called, rfl, ?_⟩
            simp [result, LimiterCall.run, called, done]
          have only (other : Text) (state' : FinalState)
              (finalizes : step.FinalizesTo limits reservationKey
                (reservationKey pathname) other state') :
              other = leaseId ∧ state' = state := by
            obtain ⟨_, called', _⟩ := finalizes
            cases called.symm.trans called'
            exact ⟨rfl, rfl⟩
          cases state with
          | consumed =>
              have written : (step.after limits reservationKey).reservations
                  (reservationKey pathname) = some ⟨consumedValue,
                    some (RedisKey.expiry step.time consumedReservationTtlSeconds)⟩ := by
                simpa [after, LimiterCall.run, called] using written
              rw [written]
              exact .finalized leaseId .consumed live _ found held noGrant
                finalizes only rfl
          | reserved =>
              have written : (step.after limits reservationKey).reservations
                  (reservationKey pathname) = some ⟨reservedValue, some deadline⟩ := by
                simpa [after, LimiterCall.run, called] using written
              rw [written]
              exact .finalized leaseId .reserved live _ found held noGrant
                finalizes only rfl
      · refine effect_of_kept ?_ noGrant ?_
        · simp [after, LimiterCall.run, called, Function.update_of_ne (Ne.symm keyed)]
        · rintro other state' ⟨_, called', keyed', _⟩
          cases called.symm.trans called'
          exact keyed keyed'

theorem LimiterStep.Grants.unique {leaseId other : Text} {expiry later : Nat}
    (grants : step.Grants limits reservationKey key leaseId expiry)
    (again : step.Grants limits reservationKey key other later) :
    other = leaseId ∧ later = expiry := by
  obtain ⟨pathname, leaseSeconds, _, called, _, _, runs⟩ := grants
  obtain ⟨_, _, _, called', _, _, runs'⟩ := again
  rw [called] at called'
  cases called'
  exact ⟨rfl, runs'.trans runs.symm⟩

/-- Quota is charged only while the key is missing. -/
theorem LimiterStep.Charges.misses
    (charges : step.Charges limits reservationKey key) : step.Misses key := by
  obtain ⟨pathname, ttlSeconds, units, observe, called, keyed, charged⟩ := charges
  obtain ⟨time, call, before⟩ := step
  subst called keyed
  by_contra present
  obtain ⟨live, found⟩ := Option.ne_none_iff_exists'.mp present
  by_cases invalid : pathname = [] ∨ units < 1
  · simp [result, after, LimiterCall.run, invalid] at charged
  · simp [result, after, LimiterCall.run, invalid, reserveUploadScript, found,
      alreadyReservedReply] at charged

end Effects

section Runs

variable {Key : Type} [DecidableEq Key]

/-- The lease that a call names. -/
def LimiterCall.leaseId? : LimiterCall → Option Text
  | .acquireUploadReservation _ _ leaseId => some leaseId
  | .finalizeUploadReservation _ leaseId _ => some leaseId
  | _ => none

/-- Lease ids are drawn afresh and have one length. -/
structure DistinctLeases (steps : List (LimiterStep Key)) : Prop where
  sameLength : ∃ length, ∀ step ∈ steps, ∀ leaseId,
    step.call.leaseId? = some leaseId → leaseId.length = length
  fresh : ∀ (i j : Nat) (first second : LimiterStep Key),
    steps[i]? = some first → steps[j]? = some second →
    ∀ pathname leaseSeconds pathname' leaseSeconds' leaseId,
      first.call = .acquireUploadReservation pathname leaseSeconds leaseId →
        second.call =
            .acquireUploadReservation pathname' leaseSeconds' leaseId →
          i = j

variable (limits : WindowLimits) (reservationKey : Text → Key)

/-- What the key of a reservation tells about the leases of a run. -/
structure LeaseInvariant (steps : List (LimiterStep Key))
    (store : UploadStore Key) (key : Key) : Prop where
  recorded : ∀ live, store.reservations key = some live →
    live.value.take 7 ≠ leasedPrefix ∨
      ∃ i step leaseId expiry, steps[i]? = some step ∧
        step.Grants limits reservationKey key leaseId expiry ∧
        live.value = leasedValue leaseId expiry ∧
        ¬ Later steps i fun later => ∃ other expiry',
          later.Grants limits reservationKey key other expiry'
  accounted : ∀ i step leaseId expiry, steps[i]? = some step →
    step.Grants limits reservationKey key leaseId expiry →
      (∃ deadline, store.reservations key =
          some ⟨leasedValue leaseId expiry, some deadline⟩ ∧
            expiry * 1000 + 300000 ≤ deadline) ∨
        (Later steps i fun later => ∃ state,
          later.FinalizesTo limits reservationKey key leaseId state) ∨
        (Later steps i fun later => (∃ other expiry',
          later.Grants limits reservationKey key other expiry') ∧
            expiry ≤ later.time.wholeSeconds) ∨
        (Later steps i fun later => expiry + 300 ≤ later.time.wholeSeconds)
  consumed : ∀ i step leaseId, steps[i]? = some step →
    step.FinalizesTo limits reservationKey key leaseId .consumed →
      store.reservations key = some ⟨consumedValue,
          some (RedisKey.expiry step.time consumedReservationTtlSeconds)⟩ ∨
        (Later steps i fun later =>
          RedisKey.expiry step.time consumedReservationTtlSeconds <
            later.time.millis)

variable {limits : WindowLimits} {reservationKey : Text → Key}
  {steps : List (LimiterStep Key)} {store : UploadStore Key} {key : Key}
  {new : LimiterStep Key} {now : RedisTime}

variable {leaseId : Text} {expiry : Nat} {i : Nat}

theorem LimiterStep.Grants.leaseId?
    (grants : new.Grants limits reservationKey key leaseId expiry) :
    new.call.leaseId? = some leaseId := by
  obtain ⟨_, _, _, called, _⟩ := grants
  rw [called]
  rfl

theorem LimiterStep.FinalizesTo.leaseId? {state : FinalState}
    (finalizes : new.FinalizesTo limits reservationKey key leaseId state) :
    new.call.leaseId? = some leaseId := by
  obtain ⟨_, called, _⟩ := finalizes
  rw [called]
  rfl

theorem LeaseInvariant.start :
    LeaseInvariant limits reservationKey [] {} key where
  recorded := by simp
  accounted := by simp
  consumed := by simp

/-- A call that leaves the key alone. -/
theorem LeaseInvariant.kept
    (invariant : LeaseInvariant limits reservationKey steps new.before key)
    (kept : store.reservations key = new.before.reservations key)
    (noGrant : ∀ leaseId expiry,
      ¬ new.Grants limits reservationKey key leaseId expiry)
    (noFinal : ∀ leaseId state,
      ¬ new.FinalizesTo limits reservationKey key leaseId state) :
    LeaseInvariant limits reservationKey (steps ++ [new]) store key where
  recorded := by
    intro live stored
    rw [kept] at stored
    rcases invariant.recorded live stored with unleased |
      ⟨i, step, leaseId, expiry, found, grants, value, last⟩
    · exact .inl unleased
    · right
      refine ⟨i, step, leaseId, expiry, getElem?_append found, grants, value, ?_⟩
      apply not_later_append last
      rintro ⟨other, expiry', again⟩
      exact noGrant other expiry' again
  accounted := by
    intro i step leaseId expiry found grants
    rw [kept]
    rcases getElem?_append_cases found with found | ⟨_, rfl⟩
    · rcases invariant.accounted i step leaseId expiry found grants with held |
        finalized | superseded | past
      · exact .inl held
      · exact .inr (.inl finalized.append)
      · exact .inr (.inr (.inl superseded.append))
      · exact .inr (.inr (.inr past.append))
    · exact absurd grants (noGrant leaseId expiry)
  consumed := by
    intro i step leaseId found finalizes
    rw [kept]
    rcases getElem?_append_cases found with found | ⟨_, rfl⟩
    · rcases invariant.consumed i step leaseId found finalizes with held | past
      · exact .inl held
      · exact .inr past.append
    · exact absurd finalizes (noFinal leaseId .consumed)

omit [DecidableEq Key] in
/-- A lease whose key is gone ended long before. -/
theorem past_of_misses {expiry deadline : Nat} (held : new.before.reservations key =
      some ⟨leasedValue leaseId expiry, some deadline⟩)
    (late : expiry * 1000 + 300000 ≤ deadline) (missing : new.Misses key) :
    expiry + 300 ≤ new.time.wholeSeconds := by
  rw [LimiterStep.Misses, held, RedisKey.get_eq_none_iff] at missing
  simp only [RedisTime.millis, RedisTime.wholeSeconds] at missing ⊢
  omega

/-- A call that reserves the missing key. -/
theorem LeaseInvariant.reserved {deadline : Nat}
    (invariant : LeaseInvariant limits reservationKey steps new.before key)
    (missing : new.Misses key)
    (written : store.reservations key = some ⟨reservedValue, some deadline⟩)
    (noGrant : ∀ leaseId expiry,
      ¬ new.Grants limits reservationKey key leaseId expiry)
    (noFinal : ∀ leaseId state,
      ¬ new.FinalizesTo limits reservationKey key leaseId state) :
    LeaseInvariant limits reservationKey (steps ++ [new]) store key where
  recorded := by
    intro live stored
    left
    rw [written] at stored
    rw [← Option.some.inj stored]
    exact take_reservedValue
  accounted := by
    intro i step leaseId expiry found grants
    rcases getElem?_append_cases found with found | ⟨_, rfl⟩
    · rcases invariant.accounted i step leaseId expiry found grants with
        ⟨deadline, held, late⟩ | finalized | superseded | past
      · right; right; right
        exact .last (lt_length_of_getElem? found)
          (past_of_misses held late missing)
      · exact .inr (.inl finalized.append)
      · exact .inr (.inr (.inl superseded.append))
      · exact .inr (.inr (.inr past.append))
    · exact absurd grants (noGrant leaseId expiry)
  consumed := by
    intro i step leaseId found finalizes
    right
    rcases getElem?_append_cases found with found | ⟨_, rfl⟩
    · rcases invariant.consumed i step leaseId found finalizes with held | past
      · rw [LimiterStep.Misses, held, RedisKey.get_eq_none_iff] at missing
        exact .last (lt_length_of_getElem? found) missing
      · exact past.append
    · exact absurd finalizes (noFinal leaseId .consumed)

/-- A call that leases the idle key. -/
theorem LeaseInvariant.leased {expiry deadline : Nat} {live : RedisKey Text}
    (invariant : LeaseInvariant limits reservationKey steps new.before key)
    (found : RedisKey.get (new.before.reservations key) new.time = some live)
    (idle : runningLease live.value new.time = none)
    (unconsumed : live.value ≠ consumedValue)
    (grants : new.Grants limits reservationKey key leaseId expiry)
    (noFinal : ∀ leaseId state,
      ¬ new.FinalizesTo limits reservationKey key leaseId state)
    (late : expiry * 1000 + 300000 ≤ deadline)
    (written : store.reservations key =
      some ⟨leasedValue leaseId expiry, some deadline⟩) :
    LeaseInvariant limits reservationKey (steps ++ [new]) store key where
  recorded := by
    intro live stored
    right
    rw [written] at stored
    refine ⟨steps.length, new, leaseId, expiry, List.getElem?_concat_length,
      grants, ?_, not_later_last⟩
    rw [← Option.some.inj stored]
  accounted := by
    intro i step other expiry' at_i earlier
    rcases getElem?_append_cases at_i with at_i | ⟨_, rfl⟩
    · rcases invariant.accounted i step other expiry' at_i earlier with
        ⟨_, held, _⟩ | finalized | superseded | past
      · right; right; left
        have value : live.value = leasedValue other expiry' := by
          have same := (RedisKey.get_eq_some_iff.mp found).1
          rw [held] at same
          rw [← Option.some.inj same]
        rw [value, runningLease_leasedValue] at idle
        have ended : expiry' ≤ new.time.wholeSeconds := by
          by_contra running
          simp [not_le.mp running] at idle
        exact .last (lt_length_of_getElem? at_i) ⟨⟨leaseId, expiry, grants⟩, ended⟩
      · exact .inr (.inl finalized.append)
      · exact .inr (.inr (.inl superseded.append))
      · exact .inr (.inr (.inr past.append))
    · obtain ⟨rfl, rfl⟩ := grants.unique earlier
      exact .inl ⟨deadline, written, late⟩
  consumed := by
    intro i step other at_i finalizes
    rcases getElem?_append_cases at_i with at_i | ⟨_, rfl⟩
    · rcases invariant.consumed i step other at_i finalizes with held | past
      · have same := (RedisKey.get_eq_some_iff.mp found).1
        rw [held] at same
        exact absurd (by rw [← Option.some.inj same]) unconsumed
      · exact .inr past.append
    · exact absurd finalizes (noFinal other .consumed)

/-- A call that finalises the lease that the key records. -/
theorem LeaseInvariant.finalized {state : FinalState} {live after : RedisKey Text}
    (invariant : LeaseInvariant limits reservationKey steps new.before key)
    (sameLength : ∃ length, ∀ step ∈ steps ++ [new], ∀ leaseId,
      step.call.leaseId? = some leaseId → leaseId.length = length)
    (found : RedisKey.get (new.before.reservations key) new.time = some live)
    (held : live.value.take (7 + leaseId.length) = leasedPrefix ++ leaseId)
    (noGrant : ∀ leaseId expiry,
      ¬ new.Grants limits reservationKey key leaseId expiry)
    (finalizes : new.FinalizesTo limits reservationKey key leaseId state)
    (only : ∀ other state', new.FinalizesTo limits reservationKey key other state' →
      other = leaseId ∧ state' = state)
    (value : after = state.finalKey new.time after.expiresAt)
    (written : store.reservations key = some after) :
    LeaseInvariant limits reservationKey (steps ++ [new]) store key where
  recorded := by
    intro live stored
    left
    rw [written] at stored
    rw [← Option.some.inj stored, value]
    cases state with
    | reserved => exact take_reservedValue
    | consumed => exact take_consumedValue
  accounted := by
    intro i step other expiry at_i grants
    rcases getElem?_append_cases at_i with at_i | ⟨_, rfl⟩
    · rcases invariant.accounted i step other expiry at_i grants with
        ⟨deadline, stored, _⟩ | finalized | superseded | past
      · right; left
        obtain ⟨length, sameLength⟩ := sameLength
        have otherLength : other.length = length :=
          sameLength step (by simp [mem_of_getElem? at_i]) other grants.leaseId?
        have leaseLength : leaseId.length = length :=
          sameLength new (by simp) leaseId finalizes.leaseId?
        have same := (RedisKey.get_eq_some_iff.mp found).1
        rw [stored] at same
        rw [← Option.some.inj same] at held
        have ids : other = leaseId :=
          (take_leasedValue_eq_iff expiry (otherLength.trans leaseLength.symm)).mp held
        exact .last (lt_length_of_getElem? at_i) ⟨state, ids ▸ finalizes⟩
      · exact .inr (.inl finalized.append)
      · exact .inr (.inr (.inl superseded.append))
      · exact .inr (.inr (.inr past.append))
    · exact absurd grants (noGrant other expiry)
  consumed := by
    intro i step other at_i consumes
    rcases getElem?_append_cases at_i with at_i | ⟨_, rfl⟩
    · rcases invariant.consumed i step other at_i consumes with stored | past
      · have same := (RedisKey.get_eq_some_iff.mp found).1
        rw [stored] at same
        rw [← Option.some.inj same] at held
        exact absurd held (take_ne_of_not_leased take_consumedValue)
      · exact .inr past.append
    · obtain ⟨_, rfl⟩ := only other .consumed consumes
      left
      rw [written, value]
      rfl

theorem LeaseInvariant.step
    (invariant : LeaseInvariant limits reservationKey steps new.before key)
    (sameLength : ∃ length, ∀ step ∈ steps ++ [new], ∀ leaseId,
      step.call.leaseId? = some leaseId → leaseId.length = length) :
    LeaseInvariant limits reservationKey (steps ++ [new])
      (new.after limits reservationKey) key := by
  have effect : new.Effect limits reservationKey key
    ((new.after limits reservationKey).reservations key) := new.effect key
  generalize written :
    (new.after limits reservationKey).reservations key = after at effect
  cases effect with
  | kept noGrant noFinal => exact invariant.kept written noGrant noFinal
  | reserved deadline missing noGrant noFinal =>
      exact invariant.reserved missing written noGrant noFinal
  | leased leaseId expiry deadline live found idle unconsumed grants noFinal late =>
      exact invariant.leased found idle unconsumed grants noFinal late written
  | finalized leaseId state live after found held noGrant finalizes only value =>
      exact invariant.finalized sameLength found held noGrant finalizes only value
        written

theorem LeaseInvariant.run (run : LimiterRun limits reservationKey steps store)
    (sameLength : ∃ length, ∀ step ∈ steps, ∀ leaseId,
      step.call.leaseId? = some leaseId → leaseId.length = length)
    (key : Key) : LeaseInvariant limits reservationKey steps store key := by
  induction run with
  | start => exact .start
  | step time call run ordered induction =>
      have invariant := induction (by
        obtain ⟨length, uniform⟩ := sameLength
        exact ⟨length, fun step member => uniform step (by simp [member])⟩)
      exact LeaseInvariant.step invariant sameLength

variable (limits reservationKey) in
/-- A lease that is neither finalised nor past its expiry. -/
def OpenLease (steps : List (LimiterStep Key)) (key : Key) (now : RedisTime)
    (i : Nat) : Prop :=
  ∃ step leaseId expiry,
    steps[i]? = some step ∧
      step.Grants limits reservationKey key leaseId expiry ∧
      (¬ Later steps i fun later => ∃ state,
        later.FinalizesTo limits reservationKey key leaseId state) ∧
      now.wholeSeconds < expiry

variable (limits reservationKey) in
/-- What holds after the steps of a run, of one reservation and at some time. -/
structure LeaseProtocol (steps : List (LimiterStep Key))
    (store : UploadStore Key) (key : Key) (now : RedisTime) : Prop where
  /-- At most one lease runs. -/
  exclusive : ∀ i j, OpenLease limits reservationKey steps key now i →
    OpenLease limits reservationKey steps key now j → i = j
  /-- Within its retention a consumed reservation is left alone by every call, and
  none acquires it. -/
  consumed : ∀ (i : Nat) (step : LimiterStep Key) (leaseId : Text),
    steps[i]? = some step →
    step.FinalizesTo limits reservationKey key leaseId .consumed →
      now.millis ≤ RedisKey.expiry step.time consumedReservationTtlSeconds →
        store.reservations key = some ⟨consumedValue,
            some (RedisKey.expiry step.time consumedReservationTtlSeconds)⟩ ∧
          ∀ call : LimiterCall,
            (call.run limits reservationKey now store).2.reservations key =
                store.reservations key ∧
              ∀ other expiry, ¬ LimiterStep.Grants limits reservationKey
                ⟨now, call, store⟩ key other expiry
  /-- The holder of a lease that nobody superseded can finalise it. -/
  holder : ∀ i step leaseId expiry, steps[i]? = some step →
    step.Grants limits reservationKey key leaseId expiry →
      (¬ Later steps i fun later => ∃ other expiry',
        later.Grants limits reservationKey key other expiry') →
      (¬ Later steps i fun later => ∃ state,
        later.FinalizesTo limits reservationKey key leaseId state) →
      now.wholeSeconds ≤ expiry →
        ∀ pathname state, reservationKey pathname = key →
          ((LimiterCall.finalizeUploadReservation pathname leaseId state).run
            limits reservationKey now store).1 = .finalized true
  /-- The holder of a superseded lease cannot, and changes nothing. -/
  superseded : ∀ i step leaseId expiry, steps[i]? = some step →
    step.Grants limits reservationKey key leaseId expiry →
      (Later steps i fun later => ∃ other expiry',
        later.Grants limits reservationKey key other expiry') →
        ∀ pathname state, reservationKey pathname = key →
          (LimiterCall.finalizeUploadReservation pathname leaseId state).run
            limits reservationKey now store = (.finalized false, store)
  /-- Between two charges for a reservation its key was gone. -/
  chargedOnce : ∀ (i j : Nat) (first second : LimiterStep Key),
    steps[i]? = some first → steps[j]? = some second → i < j →
      first.Charges limits reservationKey key →
      second.Charges limits reservationKey key →
        ∃ (k : Nat) (gone : LimiterStep Key),
          i < k ∧ k ≤ j ∧ steps[k]? = some gone ∧ gone.Misses key

omit [DecidableEq Key] in
/-- No later step comes after `now`. -/
theorem not_later_of_ordered {limit : Nat} (ordered : ∀ earlier ∈ steps, earlier.time ≤ now)
    (short : now.wholeSeconds < limit) :
    ¬ Later steps i fun later => limit ≤ later.time.wholeSeconds := by
  rintro ⟨j, later, _, found, past⟩
  have earlier : later.time.wholeSeconds ≤ now.wholeSeconds :=
    Nat.div_le_div_right (ordered later (mem_of_getElem? found))
  omega

/-- What the key holds while a lease is open. -/
theorem LeaseInvariant.held_of_open
    (invariant : LeaseInvariant limits reservationKey steps store key)
    (ordered : ∀ earlier ∈ steps, earlier.time ≤ now)
    (isOpen : OpenLease limits reservationKey steps key now i) :
    ∃ step leaseId expiry deadline,
      steps[i]? = some step ∧
        step.Grants limits reservationKey key leaseId expiry ∧
        store.reservations key =
          some ⟨leasedValue leaseId expiry, some deadline⟩ := by
  obtain ⟨step, leaseId, expiry, found, grants, unfinished, running⟩ := isOpen
  rcases invariant.accounted i step leaseId expiry found grants with
    ⟨deadline, held, _⟩ | finalized | superseded | past
  · exact ⟨step, leaseId, expiry, deadline, found, grants, held⟩
  · exact absurd finalized unfinished
  · exact absurd (superseded.mono fun _ _ both => both.2)
      (not_later_of_ordered ordered running)
  · exact absurd past (not_later_of_ordered ordered (by omega))

theorem exclusive_of_run
    (invariant : LeaseInvariant limits reservationKey steps store key)
    (distinct : DistinctLeases steps)
    (ordered : ∀ earlier ∈ steps, earlier.time ≤ now) {i j : Nat}
    (first : OpenLease limits reservationKey steps key now i)
    (second : OpenLease limits reservationKey steps key now j) : i = j := by
  obtain ⟨step, leaseId, expiry, _, found, grants, held⟩ :=
    invariant.held_of_open ordered first
  obtain ⟨step', leaseId', expiry', _, found', grants', held'⟩ :=
    invariant.held_of_open ordered second
  have values : leasedValue leaseId expiry = leasedValue leaseId' expiry' := by
    rw [held] at held'
    exact (RedisKey.mk.inj (Option.some.inj held')).1
  obtain ⟨length, sameLength⟩ := distinct.sameLength
  have lengths : leaseId.length = leaseId'.length :=
    (sameLength step (mem_of_getElem? found) leaseId grants.leaseId?).trans
      (sameLength step' (mem_of_getElem? found') leaseId' grants'.leaseId?).symm
  have ids : leaseId = leaseId' := by
    rw [← take_leasedValue_eq_iff expiry lengths, values,
      take_leasedValue_eq_iff expiry' rfl]
  subst ids
  obtain ⟨pathname, leaseSeconds, _, called, _⟩ := grants
  obtain ⟨pathname', leaseSeconds', _, called', _⟩ := grants'
  exact distinct.fresh i j step step' found found' pathname leaseSeconds pathname'
    leaseSeconds' leaseId called called'

theorem consumed_of_run
    (invariant : LeaseInvariant limits reservationKey steps store key)
    (ordered : ∀ earlier ∈ steps, earlier.time ≤ now)
    {step : LimiterStep Key} (found : steps[i]? = some step)
    (consumes : step.FinalizesTo limits reservationKey key leaseId .consumed)
    (retained : now.millis ≤
      RedisKey.expiry step.time consumedReservationTtlSeconds) :
    store.reservations key = some ⟨consumedValue,
        some (RedisKey.expiry step.time consumedReservationTtlSeconds)⟩ ∧
      ∀ call : LimiterCall,
        (call.run limits reservationKey now store).2.reservations key =
            store.reservations key ∧
          ∀ other expiry, ¬ LimiterStep.Grants limits reservationKey
            ⟨now, call, store⟩ key other expiry := by
  have held : store.reservations key = some ⟨consumedValue,
      some (RedisKey.expiry step.time consumedReservationTtlSeconds)⟩ := by
    rcases invariant.consumed i step leaseId found consumes with held | past
    · exact held
    · obtain ⟨j, later, _, found', gone⟩ := past
      have earlier : later.time.millis ≤ now.millis :=
        Nat.div_le_div_right (ordered later (mem_of_getElem? found'))
      omega
  refine ⟨held, ?_⟩
  intro call
  have present : RedisKey.get (store.reservations key) now =
      some ⟨consumedValue,
        some (RedisKey.expiry step.time consumedReservationTtlSeconds)⟩ := by
    rw [held]
    exact RedisKey.get_of_le _ retained
  have effect : LimiterStep.Effect limits reservationKey ⟨now, call, store⟩ key
      ((call.run limits reservationKey now store).2.reservations key) :=
    LimiterStep.effect ⟨now, call, store⟩ key
  generalize written :
    (call.run limits reservationKey now store).2.reservations key = after
    at effect ⊢
  cases effect with
  | kept noGrant noFinal => exact ⟨rfl, noGrant⟩
  | reserved deadline missing noGrant noFinal =>
      rw [LimiterStep.Misses, present] at missing
      cases missing
  | leased leaseId expiry deadline live found idle unconsumed grants noFinal late =>
      rw [present] at found
      exact absurd (by rw [← Option.some.inj found]) unconsumed
  | finalized leaseId state live after found held noGrant finalizes only value =>
      rw [present] at found
      rw [← Option.some.inj found] at held
      exact absurd held (take_ne_of_not_leased take_consumedValue)

theorem holder_of_run
    (invariant : LeaseInvariant limits reservationKey steps store key)
    (ordered : ∀ earlier ∈ steps, earlier.time ≤ now)
    {step : LimiterStep Key} (found : steps[i]? = some step)
    (grants : step.Grants limits reservationKey key leaseId expiry)
    (unrivalled : ¬ Later steps i fun later => ∃ other expiry',
      later.Grants limits reservationKey key other expiry')
    (unfinished : ¬ Later steps i fun later => ∃ state,
      later.FinalizesTo limits reservationKey key leaseId state)
    (running : now.wholeSeconds ≤ expiry) {pathname : Text} (state : FinalState)
    (keyed : reservationKey pathname = key) :
    ((LimiterCall.finalizeUploadReservation pathname leaseId state).run limits
      reservationKey now store).1 = .finalized true := by
  rcases invariant.accounted i step leaseId expiry found grants with
    ⟨deadline, held, late⟩ | finalized | superseded | past
  · have alive : now.millis < deadline := by
      simp only [RedisTime.millis, RedisTime.wholeSeconds] at running ⊢
      omega
    have present := RedisKey.get_of_le (leasedValue leaseId expiry)
      alive.le
    have remaining := RedisKey.pttl_of_le (leasedValue leaseId expiry)
      alive.le
    have named := (take_leasedValue_eq_iff expiry
      (rfl : leaseId.length = leaseId.length)).mpr rfl
    have positive : ¬ ((deadline - now.millis : Nat) : Int) ≤ 0 := by omega
    subst keyed
    simp only [LimiterCall.run, finalizeReservationScript, held, present, named,
      remaining, positive, ne_eq, not_true_eq_false, if_false]
    cases state with
    | reserved => rfl
    | consumed => rfl
  · exact absurd finalized unfinished
  · exact absurd (superseded.mono fun _ _ both => both.1) unrivalled
  · exact absurd past (not_later_of_ordered ordered (by omega))

theorem superseded_of_run
    (invariant : LeaseInvariant limits reservationKey steps store key)
    (distinct : DistinctLeases steps) {step : LimiterStep Key}
    (found : steps[i]? = some step)
    (grants : step.Grants limits reservationKey key leaseId expiry)
    (superseded : Later steps i fun later => ∃ other expiry',
      later.Grants limits reservationKey key other expiry')
    {pathname : Text} (state : FinalState)
    (keyed : reservationKey pathname = key) :
    (LimiterCall.finalizeUploadReservation pathname leaseId state).run limits
      reservationKey now store = (.finalized false, store) := by
  have refused (live : RedisKey Text)
      (present : RedisKey.get (store.reservations key) now = some live) :
      live.value.take (7 + leaseId.length) ≠ leasedPrefix ++ leaseId := by
    have stored := (RedisKey.get_eq_some_iff.mp present).1
    rcases invariant.recorded live stored with unleased |
      ⟨j, other, otherId, expiry', found', grants', value, last⟩
    · exact take_ne_of_not_leased unleased
    · intro held
      obtain ⟨length, sameLength⟩ := distinct.sameLength
      have lengths : otherId.length = leaseId.length :=
        (sameLength other (mem_of_getElem? found') otherId grants'.leaseId?).trans
          (sameLength step (mem_of_getElem? found) leaseId grants.leaseId?).symm
      rw [value, take_leasedValue_eq_iff expiry' lengths] at held
      subst held
      obtain ⟨first, leaseSeconds, _, called, _⟩ := grants
      obtain ⟨second, leaseSeconds', _, called', _⟩ := grants'
      have same := distinct.fresh i j step other found found' first leaseSeconds
        second leaseSeconds' otherId called called'
      subst same
      exact last superseded
  subst keyed
  cases present : RedisKey.get (store.reservations (reservationKey pathname)) now
    with
  | none =>
      simp [LimiterCall.run, finalizeReservationScript, present]
  | some live =>
      simp [LimiterCall.run, finalizeReservationScript, present,
        refused live present]

/-- Whatever an account's clients call and whenever keys expire, each of its
reservations obeys the lease protocol. -/
theorem upload_reservations_protocol (limits : WindowLimits)
    (reservationKey : Text → Key) {steps : List (LimiterStep Key)}
    {store : UploadStore Key} (run : LimiterRun limits reservationKey steps store)
    (distinct : DistinctLeases steps) (key : Key) {now : RedisTime}
    (ordered : ∀ earlier ∈ steps, earlier.time ≤ now) :
    LeaseProtocol limits reservationKey steps store key now := by
  have invariant := LeaseInvariant.run run distinct.sameLength key
  constructor
  · intro i j first second
    exact exclusive_of_run invariant distinct ordered first second
  · intro i step leaseId found consumes retained
    exact consumed_of_run invariant ordered found consumes retained
  · intro i step leaseId expiry found grants unrivalled unfinished running pathname
      state keyed
    exact holder_of_run invariant ordered found grants unrivalled unfinished
      running state keyed
  · intro i step leaseId expiry found grants superseded pathname state keyed
    exact superseded_of_run invariant distinct found grants superseded state keyed
  · intro i j first second _ found after _ charges
    exact ⟨j, second, after, le_rfl, found, charges.misses⟩

/-- A client reserves a pathname for half an hour. -/
def sampleReserve : LimiterStep Text :=
  ⟨0, .reserveUpload ['p'] 1800 1 false, {}⟩

def sampleLimits : WindowLimits := ⟨0, 5, 20⟩

/-- Another client leases it for a minute. -/
def sampleAcquire : LimiterStep Text :=
  ⟨1000000, .acquireUploadReservation ['p'] 60 ['a'],
    sampleReserve.after sampleLimits id⟩

/-- Then a second one takes the expired lease over, and the first one comes to finalize. -/
def sampleTakeover : LimiterStep Text :=
  ⟨70000000, .acquireUploadReservation ['p'] 60 ['b'],
    sampleAcquire.after sampleLimits id⟩

def sampleFinalize : LimiterStep Text :=
  ⟨75000000, .finalizeUploadReservation ['p'] ['a'] .consumed,
    sampleTakeover.after sampleLimits id⟩

def takeoverSteps : List (LimiterStep Text) :=
  [sampleReserve, sampleAcquire, sampleTakeover, sampleFinalize]

theorem sample_index {step : LimiterStep Text} {pathname leaseId : Text}
    {leaseSeconds : Int} (found : takeoverSteps[i]? = some step)
    (called : step.call = .acquireUploadReservation pathname leaseSeconds leaseId) :
    (i = 1 ∧ leaseId = ['a']) ∨ (i = 2 ∧ leaseId = ['b']) := by
  match i with
  | 0 =>
      cases found
      cases called
  | 1 =>
      cases found
      cases called
      exact .inl ⟨rfl, rfl⟩
  | 2 =>
      cases found
      cases called
      exact .inr ⟨rfl, rfl⟩
  | 3 =>
      cases found
      cases called
  | i + 4 => simp [takeoverSteps] at found

/-- The first lease finalizes nothing, and the second one is the reservation's. -/
theorem upload_reservations_protocol_sample :
    takeoverSteps.tail.map (LimiterStep.result sampleLimits id) =
        [.lease .acquired (some 60), .lease .acquired (some 60), .finalized false] ∧
      LeaseProtocol sampleLimits id takeoverSteps (sampleFinalize.after sampleLimits id) ['p']
        80000000 := by
  have run : LimiterRun sampleLimits id takeoverSteps (sampleFinalize.after sampleLimits id) :=
    .step 75000000 _ (.step 70000000 _ (.step 1000000 _ (.step 0 _ .start (by simp))
      (by simp)) (by simp)) (by simp)
  refine ⟨by decide +kernel, upload_reservations_protocol sampleLimits id run ?_ ['p'] (by decide)⟩
  constructor
  · exact ⟨1, by simp [takeoverSteps, sampleReserve, sampleAcquire, sampleTakeover,
      sampleFinalize, LimiterCall.leaseId?]⟩
  · intro i j first second at_i at_j _ _ _ _ leaseId called called'
    rcases sample_index at_i called with ⟨rfl, rfl⟩ | ⟨rfl, rfl⟩
    · rcases sample_index at_j called' with ⟨rfl, _⟩ | ⟨_, same⟩
      · rfl
      · cases same
    · rcases sample_index at_j called' with ⟨_, same⟩ | ⟨rfl, _⟩
      · cases same
      · rfl

end Runs

end ContractMate
