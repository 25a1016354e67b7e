import ContractMate.PythonText
import ContractMate.RateLimitScripts

/-!
# Upload reservations

The scripts by which clients reserve a pathname, lease the reservation and
finalise the lease, the methods of the rate limiter around them, and runs of any
number of clients of one account.
-/

namespace ContractMate

open PythonText

/-- The values of a reservation key. -/
def reservedValue : Text := "reserved".toList

def consumedValue : Text := "consumed".toList

def leasedPrefix : Text := "leased:".toList

/-- `'leased:' .. ARGV[1] .. ':' .. lease_expiry`. -/
def leasedValue (leaseId : Text) (expiry : Nat) : Text :=
  leasedPrefix ++ leaseId ++ ':' :: Nat.toDigits 10 expiry

/-- `tonumber(string.match(value, ':(%d+)$'))`. -/
def matchLeaseExpiry : Text → Option Nat
  | [] => none
  | character :: rest =>
      if character = ':' ∧ rest ≠ [] ∧ rest.all Char.isDigit then
        some (Nat.ofDigitChars 10 rest 0)
      else
        matchLeaseExpiry rest

/-- The keys of one account that the scripts touch. -/
structure UploadStore (Key : Type) where
  quota : QuotaKeys := {}
  reservations : Key → Option (RedisKey Text) := fun _ => none

/-- The eight numbers of the reservation script. -/
structure ReservationReply where
  action : Nat
  windows : WindowsReply
deriving DecidableEq, Repr

/-- `{2, 1, -1, -1, -1, 0, 0, 0}`. -/
def alreadyReservedReply : ReservationReply where
  action := 2
  windows :=
    { allowed := true, minuteRemaining := -1, hourlyRemaining := -1
      dailyRemaining := -1, minuteRetry := 0, hourlyRetry := 0
      dailyRetry := 0 }

/-- The last line of the reservation script. -/
def reservedReply (limits : WindowLimits) (units : Nat)
    (reading : WindowsReading) : ReservationReply where
  action := 1
  windows :=
    { chargedReply limits units reading with
      minuteRetry := reading.minute.retry
      hourlyRetry := reading.hourly.retry
      dailyRetry := reading.dailyRetry }

/-- `_RESERVE_UPLOAD_LUA`, on its four keys. -/
def reserveUploadScript (limits : WindowLimits) (units reservationTtl : Nat)
    (observe : Bool) (now : RedisTime)
    (keys : QuotaKeys × Option (RedisKey Text)) :
    ReservationReply × QuotaKeys × Option (RedisKey Text) :=
  match RedisKey.get keys.2 now with
  | some _ => (alreadyReservedReply, keys)
  | none =>
      let reading := readWindows limits units now keys.1
      let denied := reading.denied limits units
      let reservation : RedisKey Text :=
        { value := reservedValue
          expiresAt := some (RedisKey.expiry now reservationTtl) }
      if denied && !observe then
        (⟨1, deniedReply reading⟩, keys)
      else if denied then
        (⟨1, deniedReply reading⟩, keys.1, some reservation)
      else
        (reservedReply limits units reading,
          chargeWindows limits units now reading keys.1, some reservation)

/-- The expiry of the lease that a value records while that is still to come. -/
def runningLease (value : Text) (now : RedisTime) : Option Nat :=
  if value.take 7 = leasedPrefix then
    (matchLeaseExpiry value).filter fun expiry => now.wholeSeconds < expiry
  else
    none

/-- `_ACQUIRE_UPLOAD_RESERVATION_LUA`. -/
def acquireReservationScript (leaseId : Text) (leaseSeconds recoveryGrace : Nat)
    (now : RedisTime) (key : Option (RedisKey Text)) :
    (Nat × Nat) × Option (RedisKey Text) :=
  match RedisKey.get key now with
  | none => ((0, 0), key)
  | some live =>
      if live.value = consumedValue then ((3, 0), key)
      else
        match runningLease live.value now with
        | some expiry => ((2, max 1 (expiry - now.wholeSeconds)), key)
        | none =>
            if live.value = reservedValue ∨
                live.value.take 7 = leasedPrefix then
              let leaseExpiry := now.wholeSeconds + leaseSeconds
              let currentTtl := RedisKey.ttl key now
              let requiredTtl := leaseSeconds + recoveryGrace
              ((1, leaseSeconds),
                some
                  { value := leasedValue leaseId leaseExpiry
                    expiresAt := some (RedisKey.expiry now
                      (max currentTtl requiredTtl).toNat) })
            else
              ((0, 0), key)

/-- The state that a lease is finalised to. -/
inductive FinalState where
  | reserved
  | consumed
deriving DecidableEq, Repr

/-- `_FINALIZE_UPLOAD_RESERVATION_LUA`. -/
def finalizeReservationScript (leaseId : Text) (state : FinalState)
    (consumedTtl : Nat) (now : RedisTime) (key : Option (RedisKey Text)) :
    Nat × Option (RedisKey Text) :=
  match RedisKey.get key now with
  | none => (0, key)
  | some live =>
      if live.value.take (7 + leaseId.length) ≠ leasedPrefix ++ leaseId then
        (0, key)
      else
        let remaining := RedisKey.pttl key now
        if remaining ≤ 0 then (0, key)
        else
          match state with
          | .consumed =>
              (1, some
                { value := consumedValue
                  expiresAt := some (RedisKey.expiry now consumedTtl) })
          | .reserved =>
              (1, some
                { value := reservedValue
                  expiresAt := some (now.millis + remaining.toNat) })

/-- `_CONSUMED_RESERVATION_TTL_SECONDS`. -/
def consumedReservationTtlSeconds : Nat := 86400

/-- `_UPLOAD_LEASE_RECOVERY_GRACE_SECONDS`. -/
def uploadLeaseRecoveryGraceSeconds : Nat := 300

/-- The statuses of `UploadReservationLease`, as a configured limiter whose
commands are answered returns them. -/
inductive LeaseStatus where
  | acquired
  | missing
  | busy
  | consumed
deriving DecidableEq, Repr

/-- The branches on the first number of the acquire script. -/
def leaseStatus (action : Nat) : LeaseStatus :=
  if action = 1 then .acquired
  else if action = 2 then .busy
  else if action = 3 then .consumed
  else .missing

/-- A method of the rate limiter, called by some client. -/
inductive LimiterCall where
  | consume (units : Int)
  | reserveUpload (pathname : Text) (ttlSeconds units : Int) (observe : Bool)
  | acquireUploadReservation (pathname : Text) (leaseSeconds : Int)
      (leaseId : Text)
  | finalizeUploadReservation (pathname leaseId : Text) (state : FinalState)
deriving DecidableEq, Repr

namespace LimiterCall

/-- `mark_upload_reservation_consumed` and `release_upload_reservation`. -/
def markUploadReservationConsumed (pathname leaseId : Text) : LimiterCall :=
  .finalizeUploadReservation pathname leaseId .consumed

def releaseUploadReservation (pathname leaseId : Text) : LimiterCall :=
  .finalizeUploadReservation pathname leaseId .reserved

end LimiterCall

/-- What a method returns. -/
inductive LimiterResult where
  | valueError
  | windows (reply : WindowsReply)
  | reservation (reply : ReservationReply)
  | lease (status : LeaseStatus) (retryAfterSeconds : Option Nat)
  | finalized (done : Bool)
deriving DecidableEq, Repr

section Calls

variable {Key : Type} [DecidableEq Key]

/-- A method run against the keys of its account. -/
def LimiterCall.run (limits : WindowLimits) (reservationKey : Text → Key)
    (now : RedisTime) (store : UploadStore Key) :
    LimiterCall → LimiterResult × UploadStore Key
  | .consume units =>
      if units < 1 then (.valueError, store)
      else
        let (reply, quota) := consumeWindows limits units.toNat now store.quota
        (.windows reply, { store with quota })
  | .reserveUpload pathname ttlSeconds units observe =>
      if pathname = [] ∨ units < 1 then (.valueError, store)
      else
        let key := reservationKey pathname
        let (reply, quota, reservation) :=
          reserveUploadScript limits units.toNat (max 1 ttlSeconds).toNat observe
            now (store.quota, store.reservations key)
        (.reservation reply,
          { quota
            reservations :=
              Function.update store.reservations key reservation })
  | .acquireUploadReservation pathname leaseSeconds leaseId =>
      if pathname = [] then (.lease .missing none, store)
      else if leaseSeconds < 1 then (.valueError, store)
      else
        let key := reservationKey pathname
        let (reply, reservation) :=
          acquireReservationScript leaseId leaseSeconds.toNat
            uploadLeaseRecoveryGraceSeconds now (store.reservations key)
        (.lease (leaseStatus reply.1)
            (if reply.1 = 1 ∨ reply.1 = 2 then some reply.2 else none),
          { store with
            reservations :=
              Function.update store.reservations key reservation })
  | .finalizeUploadReservation pathname leaseId state =>
      let key := reservationKey pathname
      let (done, reservation) :=
        finalizeReservationScript leaseId state consumedReservationTtlSeconds now
          (store.reservations key)
      (.finalized (done ≠ 0),
        { store with
          reservations := Function.update store.reservations key reservation })

end Calls

/-- A call of a run: when it came and what it found. -/
structure LimiterStep (Key : Type) where
  time : RedisTime
  call : LimiterCall
  before : UploadStore Key

section Runs

variable {Key : Type} [DecidableEq Key]

namespace LimiterStep

def result (limits : WindowLimits) (reservationKey : Text → Key)
    (step : LimiterStep Key) : LimiterResult :=
  (step.call.run limits reservationKey step.time step.before).1

def after (limits : WindowLimits) (reservationKey : Text → Key)
    (step : LimiterStep Key) : UploadStore Key :=
  (step.call.run limits reservationKey step.time step.before).2

end LimiterStep

/-- The runs of an account's clients: Redis time never goes back, and each script
runs by itself. -/
inductive LimiterRun (limits : WindowLimits) (reservationKey : Text → Key) :
    List (LimiterStep Key) → UploadStore Key → Prop
  | start : LimiterRun limits reservationKey [] {}
  | step {steps : List (LimiterStep Key)} {store : UploadStore Key}
      (time : RedisTime) (call : LimiterCall)
      (run : LimiterRun limits reservationKey steps store)
      (ordered : ∀ earlier ∈ steps, earlier.time ≤ time) :
      LimiterRun limits reservationKey (steps ++ [⟨time, call, store⟩])
        (LimiterStep.after limits reservationKey ⟨time, call, store⟩)

end Runs

end ContractMate
