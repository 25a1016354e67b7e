import ContractMate.TokenBucket

/-!
# Rate-limit scripts

The quota part of the Lua scripts that the rate limiter evaluates in Redis: the
token buckets of minute and hour, the daily counter, and the keys they live in.
Lua numbers are exact rationals, and Redis time counts microseconds.
-/

namespace ContractMate

open TokenBucket

/-- `TIME`, in microseconds. -/
abbrev RedisTime := Nat

namespace RedisTime

/-- `tonumber(now_parts[1]) + tonumber(now_parts[2]) / 1000000`. -/
def seconds (now : RedisTime) : ℚ :=
  (now / 1000000 : Nat) + (now % 1000000 : Nat) / 1000000

/-- `tonumber(now_parts[1])`. -/
def wholeSeconds (now : RedisTime) : Nat :=
  now / 1000000

/-- The clock by which keys expire. -/
def millis (now : RedisTime) : Nat :=
  now / 1000

end RedisTime

/-- A Redis key: its value, and the millisecond after which it is gone. -/
structure RedisKey (Value : Type) where
  value : Value
  expiresAt : Option Nat
deriving DecidableEq, Repr

namespace RedisKey

variable {Value : Type}

/-- `GET` and `HMGET`: an expired key is missing. -/
def get (key : Option (RedisKey Value)) (now : RedisTime) :
    Option (RedisKey Value) :=
  key.filter fun key => key.expiresAt.all fun deadline => now.millis ≤ deadline

/-- `PTTL`. -/
def pttl (key : Option (RedisKey Value)) (now : RedisTime) : Int :=
  match get key now with
  | none => -2
  | some key =>
      match key.expiresAt with
      | none => -1
      | some deadline => (deadline - now.millis : Nat)

/-- `TTL` rounds to seconds. -/
def ttl (key : Option (RedisKey Value)) (now : RedisTime) : Int :=
  match get key now with
  | none => -2
  | some key =>
      match key.expiresAt with
      | none => -1
      | some deadline => ((deadline - now.millis + 500) / 1000 : Nat)

/-- The deadline that `EXPIRE` and `EX` set. -/
def expiry (now : RedisTime) (ttlSeconds : Nat) : Nat :=
  now.millis + ttlSeconds * 1000

variable {key : Option (RedisKey Value)} {live : RedisKey Value}
  {now : RedisTime} {deadline : Nat}

theorem get_eq_some_iff :
    get key now = some live ↔
      key = some live ∧
        ∀ deadline, live.expiresAt = some deadline → now.millis ≤ deadline := by
  rw [get, Option.filter_eq_some_iff]
  cases live with
  | mk value expiresAt => cases expiresAt <;> simp

theorem get_of_le (value : Value) (alive : now.millis ≤ deadline) :
    get (some ⟨value, some deadline⟩) now = some ⟨value, some deadline⟩ := by
  simp [get, alive]

theorem get_eq_none_iff {value : Value} :
    get (some ⟨value, some deadline⟩) now = none ↔ deadline < now.millis := by
  simp [get]

theorem pttl_of_le (value : Value) (alive : now.millis ≤ deadline) :
    pttl (some ⟨value, some deadline⟩) now = (deadline - now.millis : Nat) := by
  rw [pttl, get_of_le value alive]

end RedisKey

/-- The limits of a policy, `0` where it has none. -/
structure WindowLimits where
  minute : Nat
  hourly : Nat
  daily : Nat
deriving DecidableEq, Repr

/-- The quota keys of one operation and identifier. -/
structure QuotaKeys where
  minute : Option (RedisKey (Bucket ℚ)) := none
  hourly : Option (RedisKey (Bucket ℚ)) := none
  daily : Option (RedisKey Int) := none
deriving DecidableEq

/-- The seconds over which a bucket refills. -/
def minuteInterval : Nat := 60

def hourInterval : Nat := 3600

/-- `0.000001`. -/
def admissionTolerance : ℚ := 1 / 1000000

/-- Capacity, refill and tolerance of the scripts' buckets. -/
def bucketShape (capacity interval : Nat) : Shape ℚ where
  capacity := capacity
  rate := capacity / interval
  tolerance := admissionTolerance

/-- A missing key stands for a full bucket. -/
def storedBucket (key : Option (RedisKey (Bucket ℚ))) (capacity : Nat)
    (now : RedisTime) : Bucket ℚ :=
  match RedisKey.get key now with
  | some key => key.value
  | none => ⟨capacity, now.seconds⟩

/-- What the local function `bucket` returns. -/
structure BucketReading where
  tokens : ℚ
  remaining : Int
  retry : Int
deriving DecidableEq, Repr

/-- `bucket(key, capacity, interval)`; without a limit its tokens are not used. -/
def readBucket (key : Option (RedisKey (Bucket ℚ))) (capacity interval : Nat)
    (units : Nat) (now : RedisTime) : BucketReading :=
  if capacity = 0 then
    { tokens := 0, remaining := -1, retry := 0 }
  else
    let tokens := (bucketShape capacity interval).level
      (storedBucket key capacity now) now.seconds
    { tokens, remaining := ⌊tokens⌋
      retry :=
        if tokens + admissionTolerance < units then
          ⌈(units - tokens) / ((capacity : ℚ) / interval)⌉
        else 0 }

/-- The seven numbers both scripts return. -/
structure WindowsReply where
  allowed : Bool
  minuteRemaining : Int
  hourlyRemaining : Int
  dailyRemaining : Int
  minuteRetry : Int
  hourlyRetry : Int
  dailyRetry : Int
deriving DecidableEq, Repr

/-- The local variables of the scripts before their decision. -/
structure WindowsReading where
  minute : BucketReading
  hourly : BucketReading
  dailyUsed : Int
  dailyRemaining : Int
  dayTtl : Int
  dailyRetry : Int
deriving DecidableEq, Repr

/-- `tonumber(redis.call('GET', daily) or '0')`. -/
def dailyUsed (keys : QuotaKeys) (now : RedisTime) : Int :=
  ((RedisKey.get keys.daily now).map RedisKey.value).getD 0

/-- `math.max(1, math.ceil(86400 - (now % 86400)))`. -/
def dayTtl (now : RedisTime) : Int :=
  max 1 ⌈86400 - (now.seconds - 86400 * ⌊now.seconds / 86400⌋)⌉

/-- The reading part of the scripts. -/
def readWindows (limits : WindowLimits) (units : Nat) (now : RedisTime)
    (keys : QuotaKeys) : WindowsReading where
  minute := readBucket keys.minute limits.minute minuteInterval units now
  hourly := readBucket keys.hourly limits.hourly hourInterval units now
  dailyUsed := dailyUsed keys now
  dailyRemaining :=
    if 0 < limits.daily then max 0 (limits.daily - dailyUsed keys now) else -1
  dayTtl := dayTtl now
  dailyRetry :=
    if 0 < limits.daily ∧ limits.daily < dailyUsed keys now + units then
      max (max 1 (RedisKey.ttl keys.daily now)) (dayTtl now)
    else 0

/-- `minute_denied or hourly_denied or daily_denied`. -/
def WindowsReading.denied (reading : WindowsReading) (limits : WindowLimits)
    (units : Nat) : Bool :=
  (0 < limits.minute && reading.minute.tokens + admissionTolerance < units) ||
    (0 < limits.hourly && reading.hourly.tokens + admissionTolerance < units) ||
    (0 < limits.daily && (limits.daily : Int) < reading.dailyUsed + units)

/-- `HSET` and `EXPIRE` of a charged bucket. -/
def chargeBucket (key : Option (RedisKey (Bucket ℚ))) (limit ttlSeconds : Nat)
    (reading : BucketReading) (units : Nat) (now : RedisTime) :
    Option (RedisKey (Bucket ℚ)) :=
  if 0 < limit then
    some { value := ⟨reading.tokens - units, now.seconds⟩
           expiresAt := some (RedisKey.expiry now ttlSeconds) }
  else
    key

/-- `INCRBY` and, for a fresh counter, `EXPIRE`. -/
def chargeDaily (keys : QuotaKeys) (limit : Nat) (reading : WindowsReading)
    (units : Nat) (now : RedisTime) : Option (RedisKey Int) :=
  if 0 < limit then
    let used := reading.dailyUsed + units
    let kept := (RedisKey.get keys.daily now).bind RedisKey.expiresAt
    some { value := used
           expiresAt :=
             if used = units then
               some (RedisKey.expiry now reading.dayTtl.toNat)
             else kept }
  else
    keys.daily

/-- The writing part of the scripts. -/
def chargeWindows (limits : WindowLimits) (units : Nat) (now : RedisTime)
    (reading : WindowsReading) (keys : QuotaKeys) : QuotaKeys where
  minute := chargeBucket keys.minute limits.minute 120 reading.minute units now
  hourly := chargeBucket keys.hourly limits.hourly 7200 reading.hourly units now
  daily := chargeDaily keys limits.daily reading units now

/-- The numbers after a charge. -/
def chargedReply (limits : WindowLimits) (units : Nat)
    (reading : WindowsReading) : WindowsReply where
  allowed := true
  minuteRemaining :=
    if 0 < limits.minute then ⌊reading.minute.tokens - units⌋
    else reading.minute.remaining
  hourlyRemaining :=
    if 0 < limits.hourly then ⌊reading.hourly.tokens - units⌋
    else reading.hourly.remaining
  dailyRemaining :=
    if 0 < limits.daily then
      max 0 (limits.daily - (reading.dailyUsed + units))
    else reading.dailyRemaining
  minuteRetry := 0
  hourlyRetry := 0
  dailyRetry := 0

/-- The numbers of a refusal. -/
def deniedReply (reading : WindowsReading) : WindowsReply where
  allowed := false
  minuteRemaining := reading.minute.remaining
  hourlyRemaining := reading.hourly.remaining
  dailyRemaining := reading.dailyRemaining
  minuteRetry := reading.minute.retry
  hourlyRetry := reading.hourly.retry
  dailyRetry := reading.dailyRetry

/-- `_CONSUME_WINDOWS_LUA`. -/
def consumeWindows (limits : WindowLimits) (units : Nat) (now : RedisTime)
    (keys : QuotaKeys) : WindowsReply × QuotaKeys :=
  let reading := readWindows limits units now keys
  if reading.denied limits units then
    (deniedReply reading, keys)
  else
    (chargedReply limits units reading,
      chargeWindows limits units now reading keys)

end ContractMate
