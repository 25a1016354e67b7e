import ContractMate.IntakeCalls

/-!
# The two admission scripts

`_CONSUME_WINDOWS_LUA` and `_RESERVE_UPLOAD_LUA` line by line, as programs over
numbered keys and arguments.  The second repeats the text of the first with its keys
moved by one, behind a test of the reservation and with an observing mode.
-/

namespace ContractMate

namespace AdmissionScripts

open PythonText TokenBucket

/-! ## Redis -/

/-- The keys of a Redis database, by the type of their values. -/
structure RedisDb (Name : Type) where
  hashes : Name → Option (RedisKey (Bucket ℚ)) := fun _ => none
  counters : Name → Option (RedisKey Int) := fun _ => none
  texts : Name → Option (RedisKey Text) := fun _ => none

namespace RedisDb

variable {Name : Type} [DecidableEq Name] (db : RedisDb Name) (now : RedisTime)

/-- `HMGET name tokens updated_at`. -/
def hmget (name : Name) : Option ℚ × Option ℚ :=
  let live := RedisKey.get (db.hashes name) now
  (live.map fun key => key.value.tokens, live.map fun key => key.value.updatedAt)

/-- `HSET` keeps the expiry of a key. -/
def hset (name : Name) (tokens updatedAt : ℚ) : RedisDb Name :=
  let kept := (RedisKey.get (db.hashes name) now).bind RedisKey.expiresAt
  { db with
    hashes := Function.update db.hashes name (some ⟨⟨tokens, updatedAt⟩, kept⟩) }

/-- `EXPIRE` of a hash. -/
def expireHash (name : Name) (seconds : Nat) : RedisDb Name :=
  { db with
    hashes := Function.update db.hashes name
      ((RedisKey.get (db.hashes name) now).map fun key =>
        { key with expiresAt := some (RedisKey.expiry now seconds) }) }

/-- `GET` of a counter. -/
def counter (name : Name) : Option Int :=
  (RedisKey.get (db.counters name) now).map RedisKey.value

/-- `INCRBY` keeps the expiry of a key. -/
def incrby (name : Name) (units : Int) : Int × RedisDb Name :=
  let used := (db.counter now name).getD 0 + units
  let kept := (RedisKey.get (db.counters name) now).bind RedisKey.expiresAt
  (used, { db with counters := Function.update db.counters name (some ⟨used, kept⟩) })

/-- `EXPIRE` of a counter. -/
def expireCounter (name : Name) (seconds : Nat) : RedisDb Name :=
  { db with
    counters := Function.update db.counters name
      ((RedisKey.get (db.counters name) now).map fun key =>
        { key with expiresAt := some (RedisKey.expiry now seconds) }) }

/-- `SET name value EX seconds`. -/
def setText (name : Name) (value : Text) (seconds : Nat) : RedisDb Name :=
  { db with
    texts := Function.update db.texts name
      (some ⟨value, some (RedisKey.expiry now seconds)⟩) }

end RedisDb

/-! ## The scripts -/

section Scripts

variable {Name : Type} [DecidableEq Name]

/-- The local function of the consuming script; without a limit its tokens are not
used. -/
def consumeBucket (now : RedisTime) (units : Nat) (db : RedisDb Name) (key : Name)
    (capacity interval : Nat) : ℚ × Int × Int :=
  if capacity ≤ 0 then (0, -1, 0)
  else
    let state := db.hmget now key
    let tokens := state.1.getD capacity
    let updatedAt := state.2.getD now.seconds
    let updatedAt := if now.seconds < updatedAt then now.seconds else updatedAt
    let tokens :=
      min (capacity : ℚ) (tokens + (now.seconds - updatedAt) * capacity / interval)
    let retry :=
      if tokens + 1 / 1000000 < units then
        ⌈(units - tokens) / ((capacity : ℚ) / interval)⌉
      else 0
    (tokens, ⌊tokens⌋, retry)

/-- `_CONSUME_WINDOWS_LUA`. -/
def consumeWindowsLua (now : RedisTime) (keys : Nat → Name) (argv : Nat → Nat)
    (db : RedisDb Name) : List Int × RedisDb Name :=
  let minuteLimit := argv 1
  let hourlyLimit := argv 2
  let dailyLimit := argv 3
  let units := argv 4
  let (minuteTokens, minuteRemaining, minuteRetry) :=
    consumeBucket now units db (keys 1) minuteLimit 60
  let (hourlyTokens, hourlyRemaining, hourlyRetry) :=
    consumeBucket now units db (keys 2) hourlyLimit 3600
  let dailyUsed := (db.counter now (keys 3)).getD 0
  let dailyRemaining : Int :=
    if 0 < dailyLimit then max 0 (dailyLimit - dailyUsed) else -1
  let dayTtl : Int := max 1 ⌈86400 - (now.seconds - 86400 * ⌊now.seconds / 86400⌋)⌉
  let dailyRetry : Int :=
    if 0 < dailyLimit ∧ dailyLimit < dailyUsed + units then
      max (max 1 (RedisKey.ttl (db.counters (keys 3)) now)) dayTtl
    else 0
  let minuteDenied := 0 < minuteLimit && minuteTokens + 1 / 1000000 < units
  let hourlyDenied := 0 < hourlyLimit && hourlyTokens + 1 / 1000000 < units
  let dailyDenied := 0 < dailyLimit && (dailyLimit : Int) < dailyUsed + units
  if minuteDenied || hourlyDenied || dailyDenied then
    ([0, minuteRemaining, hourlyRemaining, dailyRemaining, minuteRetry, hourlyRetry,
      dailyRetry], db)
  else
    let (minuteRemaining, db) :=
      if 0 < minuteLimit then
        let tokensAfter := minuteTokens - units
        (⌊tokensAfter⌋,
          (db.hset now (keys 1) tokensAfter now.seconds).expireHash now (keys 1) 120)
      else (minuteRemaining, db)
    let (hourlyRemaining, db) :=
      if 0 < hourlyLimit then
        let tokensAfter := hourlyTokens - units
        (⌊tokensAfter⌋,
          (db.hset now (keys 2) tokensAfter now.seconds).expireHash now (keys 2) 7200)
      else (hourlyRemaining, db)
    let (dailyRemaining, db) :=
      if 0 < dailyLimit then
        let (dailyAfter, db) := db.incrby now (keys 3) units
        let db :=
          if dailyAfter = units then db.expireCounter now (keys 3) dayTtl.toNat else db
        (max 0 (dailyLimit - dailyAfter), db)
      else (dailyRemaining, db)
    ([1, minuteRemaining, hourlyRemaining, dailyRemaining, 0, 0, 0], db)

/-- The local function of the reserving script; without a limit its tokens are not
used. -/
def reserveBucket (now : RedisTime) (units : Nat) (db : RedisDb Name) (key : Name)
    (capacity interval : Nat) : ℚ × Int × Int :=
  if capacity ≤ 0 then (0, -1, 0)
  else
    let state := db.hmget now key
    let tokens := state.1.getD capacity
    let updatedAt := state.2.getD now.seconds
    let updatedAt := if now.seconds < updatedAt then now.seconds else updatedAt
    let tokens :=
      min (capacity : ℚ) (tokens + (now.seconds - updatedAt) * capacity / interval)
    let retry :=
      if tokens + 1 / 1000000 < units then
        ⌈(units - tokens) / ((capacity : ℚ) / interval)⌉
      else 0
    (tokens, ⌊tokens⌋, retry)

/-- `_RESERVE_UPLOAD_LUA`. -/
def reserveUploadLua (now : RedisTime) (keys : Nat → Name) (argv : Nat → Nat)
    (db : RedisDb Name) : List Int × RedisDb Name :=
  let existing := RedisKey.get (db.texts (keys 1)) now
  if existing.isSome then ([2, 1, -1, -1, -1, 0, 0, 0], db)
  else
    let minuteLimit := argv 1
    let hourlyLimit := argv 2
    let dailyLimit := argv 3
    let units := argv 4
    let reservationTtl := argv 5
    let observe := argv 6
    let (minuteTokens, minuteRemaining, minuteRetry) :=
      reserveBucket now units db (keys 2) minuteLimit 60
    let (hourlyTokens, hourlyRemaining, hourlyRetry) :=
      reserveBucket now units db (keys 3) hourlyLimit 3600
    let dailyUsed := (db.counter now (keys 4)).getD 0
    let dailyRemaining : Int :=
      if 0 < dailyLimit then max 0 (dailyLimit - dailyUsed) else -1
    let dayTtl : Int := max 1 ⌈86400 - (now.seconds - 86400 * ⌊now.seconds / 86400⌋)⌉
    let dailyRetry : Int :=
      if 0 < dailyLimit ∧ dailyLimit < dailyUsed + units then
        max (max 1 (RedisKey.ttl (db.counters (keys 4)) now)) dayTtl
      else 0
    let minuteDenied := 0 < minuteLimit && minuteTokens + 1 / 1000000 < units
    let hourlyDenied := 0 < hourlyLimit && hourlyTokens + 1 / 1000000 < units
    let dailyDenied := 0 < dailyLimit && (dailyLimit : Int) < dailyUsed + units
    let denied := minuteDenied || hourlyDenied || dailyDenied
    if denied && observe == 0 then
      ([1, 0, minuteRemaining, hourlyRemaining, dailyRemaining, minuteRetry, hourlyRetry,
        dailyRetry], db)
    else
      let (minuteRemaining, hourlyRemaining, dailyRemaining, db) :=
        if !denied then
          let (minuteRemaining, db) :=
            if 0 < minuteLimit then
              let tokensAfter := minuteTokens - units
              (⌊tokensAfter⌋,
                (db.hset now (keys 2) tokensAfter now.seconds).expireHash now (keys 2) 120)
            else (minuteRemaining, db)
          let (hourlyRemaining, db) :=
            if 0 < hourlyLimit then
              let tokensAfter := hourlyTokens - units
              (⌊tokensAfter⌋,
                (db.hset now (keys 3) tokensAfter now.seconds).expireHash now (keys 3)
                  7200)
            else (hourlyRemaining, db)
          let (dailyRemaining, db) :=
            if 0 < dailyLimit then
              let (dailyAfter, db) := db.incrby now (keys 4) units
              let db :=
                if dailyAfter = units then db.expireCounter now (keys 4) dayTtl.toNat
                else db
              (max 0 (dailyLimit - dailyAfter), db)
            else (dailyRemaining, db)
          (minuteRemaining, hourlyRemaining, dailyRemaining, db)
        else (minuteRemaining, hourlyRemaining, dailyRemaining, db)
      let db := db.setText now (keys 1) reservedValue reservationTtl
      let observedAllowed := if denied then 0 else 1
      ([1, observedAllowed, minuteRemaining, hourlyRemaining, dailyRemaining, minuteRetry,
        hourlyRetry, dailyRetry], db)

/-! ## What their steps do -/

section Steps

variable {now : RedisTime} {db : RedisDb Name} {units : Nat}

omit [DecidableEq Name] in
theorem consumeBucket_eq (key : Name) (capacity interval : Nat) :
    consumeBucket now units db key capacity interval =
      ((readBucket (db.hashes key) capacity interval units now).tokens,
        (readBucket (db.hashes key) capacity interval units now).remaining,
        (readBucket (db.hashes key) capacity interval units now).retry) := by
  by_cases unlimited : capacity = 0
  · simp [consumeBucket, readBucket, unlimited]
  · have limited : ¬ capacity ≤ 0 := by omega
    have tokens : (bucketShape capacity interval).level
          (storedBucket (db.hashes key) capacity now) now.seconds =
        min (capacity : ℚ) ((db.hmget now key).1.getD capacity +
          (now.seconds -
            if now.seconds < (db.hmget now key).2.getD now.seconds then now.seconds
            else (db.hmget now key).2.getD now.seconds) * capacity / interval) := by
      have earlier (updatedAt : ℚ) :
          (if now.seconds < updatedAt then now.seconds else updatedAt) =
            min updatedAt now.seconds := by
        split
        · rw [min_eq_right (le_of_lt ‹_›)]
        · rw [min_eq_left (not_lt.mp ‹_›)]
      rw [earlier, mul_div_assoc, Shape.level]
      unfold storedBucket RedisDb.hmget
      cases RedisKey.get (db.hashes key) now <;> rfl
    simp only [consumeBucket, limited, if_false, readBucket, unlimited, tokens,
      admissionTolerance]

omit [DecidableEq Name] in
omit [DecidableEq Name] in
theorem reserveBucket_eq (key : Name) (capacity interval : Nat) :
    reserveBucket now units db key capacity interval =
      consumeBucket now units db key capacity interval :=
  rfl

/-- A value written over a live key is as long-lived as the key. -/
theorem get_kept {Value : Type} (key : Option (RedisKey Value)) (now : RedisTime)
    (value : Value) :
    RedisKey.get (some ⟨value, (RedisKey.get key now).bind RedisKey.expiresAt⟩) now =
      some ⟨value, (RedisKey.get key now).bind RedisKey.expiresAt⟩ := by
  rw [RedisKey.get_eq_some_iff]
  refine ⟨rfl, ?_⟩
  intro deadline kept
  obtain ⟨live, found, expires⟩ := Option.bind_eq_some_iff.mp kept
  exact (RedisKey.get_eq_some_iff.mp found).2 deadline expires

theorem expireHash_hset (key : Name) (tokens updatedAt : ℚ) (seconds : Nat) :
    (db.hset now key tokens updatedAt).expireHash now key seconds =
      { db with
        hashes := Function.update db.hashes key
          (some ⟨⟨tokens, updatedAt⟩, some (RedisKey.expiry now seconds)⟩) } := by
  simp only [RedisDb.hset, RedisDb.expireHash, Function.update_self, get_kept,
    Option.map_some, Function.update_idem]

theorem expireCounter_incrby (key : Name) (count : Int) (seconds : Nat) :
    (db.incrby now key count).2.expireCounter now key seconds =
      { db with
        counters := Function.update db.counters key
          (some ⟨(db.incrby now key count).1, some (RedisKey.expiry now seconds)⟩) } := by
  simp only [RedisDb.incrby, RedisDb.expireCounter, Function.update_self, get_kept,
    Option.map_some, Function.update_idem]

/-- `HSET` and `EXPIRE` of a bucket under a limit charge it. -/
theorem bucket_charged (key : Name) (limit seconds : Nat) (reading : BucketReading) :
    (if 0 < limit then
        (⌊reading.tokens - units⌋,
          (db.hset now key (reading.tokens - units) now.seconds).expireHash now key
            seconds)
      else (reading.remaining, db)) =
      (if 0 < limit then ⌊reading.tokens - units⌋ else reading.remaining,
        { db with
          hashes := Function.update db.hashes key
            (chargeBucket (db.hashes key) limit seconds reading units now) }) := by
  by_cases limited : 0 < limit
  · simp only [limited, if_true, expireHash_hset, chargeBucket]
  · simp only [limited, if_false, chargeBucket, Function.update_eq_self]

/-- `INCRBY` and, for a fresh counter, `EXPIRE` charge the daily counter. -/
theorem counter_charged (db : RedisDb Name) (key : Name) (limit : Nat) (reading : WindowsReading)
    (keys : QuotaKeys) (stored : keys.daily = db.counters key)
    (read : reading.dailyUsed = dailyUsed keys now) :
    (if 0 < limit then
        (max 0 ((limit : Int) - (db.incrby now key units).1),
          if (db.incrby now key units).1 = units then
            (db.incrby now key units).2.expireCounter now key reading.dayTtl.toNat
          else (db.incrby now key units).2)
      else (reading.dailyRemaining, db)) =
      (if 0 < limit then max 0 ((limit : Int) - (reading.dailyUsed + units))
        else reading.dailyRemaining,
        { db with
          counters := Function.update db.counters key
            (chargeDaily keys limit reading units now) }) := by
  have used : (db.incrby now key units).1 = reading.dailyUsed + units := by
    rw [read, dailyUsed, stored]
    rfl
  by_cases limited : 0 < limit
  · simp only [limited, if_true, chargeDaily, used]
    by_cases fresh : reading.dailyUsed + units = units
    · simp only [fresh, if_true, expireCounter_incrby, used]
    · simp only [fresh, if_false, stored]
      rw [← used]
      rfl
  · simp only [limited, if_false, chargeDaily, stored, Function.update_eq_self]

end Steps

end Scripts

/-! ## Their keys -/

/-- What `_quota_keys` returns. -/
structure QuotaNames (Name : Type) where
  minute : Name
  hourly : Name
  daily : Name
  distinct : minute ≠ hourly

/-- `KEYS` of the consuming script. -/
def consumeKeys {Name : Type} (names : QuotaNames Name) : Nat → Name
  | 1 => names.minute
  | 2 => names.hourly
  | _ => names.daily

/-- `KEYS` of the reserving script. -/
def reserveKeys {Name : Type} (reservation : Name) (names : QuotaNames Name) : Nat → Name
  | 1 => reservation
  | 2 => names.minute
  | 3 => names.hourly
  | _ => names.daily

/-- `ARGV` of the consuming script. -/
def consumeArgv (limits : WindowLimits) (units : Nat) : Nat → Nat
  | 1 => limits.minute
  | 2 => limits.hourly
  | 3 => limits.daily
  | _ => units

/-- `ARGV` of the reserving script. -/
def reserveArgv (limits : WindowLimits) (units reservationTtl : Nat) (observe : Bool) :
    Nat → Nat
  | 1 => limits.minute
  | 2 => limits.hourly
  | 3 => limits.daily
  | 4 => units
  | 5 => reservationTtl
  | _ => observe.toNat

section Refinement

variable {Name : Type} [DecidableEq Name] {now : RedisTime} {names : QuotaNames Name}
  {reservation : Name} {limits : WindowLimits} {units reservationTtl : Nat}
  {observe : Bool} {db : RedisDb Name}

/-- The quota keys of one operation and identifier. -/
def RedisDb.quota (db : RedisDb Name) (names : QuotaNames Name) : QuotaKeys where
  minute := db.hashes names.minute
  hourly := db.hashes names.hourly
  daily := db.counters names.daily

def RedisDb.withQuota (db : RedisDb Name) (names : QuotaNames Name) (quota : QuotaKeys) :
    RedisDb Name :=
  { db with
    hashes := Function.update (Function.update db.hashes names.minute quota.minute)
      names.hourly quota.hourly
    counters := Function.update db.counters names.daily quota.daily }

omit [DecidableEq Name] in
@[simp]
theorem RedisDb.withQuota_quota [DecidableEq Name] :
    db.withQuota names (db.quota names) = db := by
  simp [RedisDb.withQuota, RedisDb.quota]

/-- What both scripts write once they admit a request. -/
theorem windows_charged (db : RedisDb Name) (names : QuotaNames Name) (limits : WindowLimits)
    (reading : WindowsReading)
    (read : reading = readWindows limits units now (db.quota names)) :
    (let (minuteRemaining, db) :=
        if 0 < limits.minute then
          let tokensAfter := reading.minute.tokens - units
          (⌊tokensAfter⌋,
            (db.hset now names.minute tokensAfter now.seconds).expireHash now names.minute
              120)
        else (reading.minute.remaining, db)
      let (hourlyRemaining, db) :=
        if 0 < limits.hourly then
          let tokensAfter := reading.hourly.tokens - units
          (⌊tokensAfter⌋,
            (db.hset now names.hourly tokensAfter now.seconds).expireHash now names.hourly
              7200)
        else (reading.hourly.remaining, db)
      let (dailyRemaining, db) :=
        if 0 < limits.daily then
          let (dailyAfter, db) := db.incrby now names.daily units
          let db :=
            if dailyAfter = units then
              db.expireCounter now names.daily reading.dayTtl.toNat
            else db
          (max 0 (limits.daily - dailyAfter), db)
        else (reading.dailyRemaining, db)
      (minuteRemaining, hourlyRemaining, dailyRemaining, db)) =
      ((chargedReply limits units reading).minuteRemaining,
        (chargedReply limits units reading).hourlyRemaining,
        (chargedReply limits units reading).dailyRemaining,
        db.withQuota names (chargeWindows limits units now reading (db.quota names))) := by
  simp only [bucket_charged]
  have hourly : Function.update db.hashes names.minute
      (chargeBucket (db.hashes names.minute) limits.minute 120 reading.minute units now)
      names.hourly = db.hashes names.hourly :=
    Function.update_of_ne names.distinct.symm _ _
  rw [hourly, counter_charged ⟨_, db.counters, db.texts⟩ names.daily limits.daily reading
    (db.quota names) rfl (by rw [read]; rfl)]
  rfl

/-- The consuming script carries `consumeWindows` out on its keys. -/
theorem consumeWindowsLua_eq :
    consumeWindowsLua now (consumeKeys names) (consumeArgv limits units) db =
      ((consumeWindows limits units now (db.quota names)).1.numbers,
        db.withQuota names (consumeWindows limits units now (db.quota names)).2) := by
  let reading := readWindows limits units now (db.quota names)
  by_cases denied : reading.denied limits units = true
  · have refused : consumeWindows limits units now (db.quota names) =
        (deniedReply reading, db.quota names) := if_pos denied
    rw [refused, RedisDb.withQuota_quota]
    simp only [consumeWindowsLua, consumeKeys, consumeArgv, consumeBucket_eq]
    exact if_pos denied
  · have charged : consumeWindows limits units now (db.quota names) =
        (chargedReply limits units reading,
          chargeWindows limits units now reading (db.quota names)) := if_neg denied
    rw [charged]
    simp only [consumeWindowsLua, consumeKeys, consumeArgv, consumeBucket_eq]
    apply (if_neg denied).trans
    exact congrArg
      (fun left : Int × Int × Int × RedisDb Name =>
        ([1, left.1, left.2.1, left.2.2.1, 0, 0, 0], left.2.2.2))
      (windows_charged db names limits reading rfl)

/-- A text key after a script. -/
def RedisDb.withText (db : RedisDb Name) (name : Name) (key : Option (RedisKey Text)) :
    RedisDb Name :=
  { db with texts := Function.update db.texts name key }

@[simp]
theorem RedisDb.withText_self : db.withText reservation (db.texts reservation) = db := by
  simp [RedisDb.withText]

/-- The reserving script carries `reserveUploadScript` out on its keys. -/
theorem reserveUploadLua_eq :
    reserveUploadLua now (reserveKeys reservation names)
        (reserveArgv limits units reservationTtl observe) db =
      ((reserveUploadScript limits units reservationTtl observe now
          (db.quota names, db.texts reservation)).1.numbers,
        (db.withQuota names (reserveUploadScript limits units reservationTtl observe now
          (db.quota names, db.texts reservation)).2.1).withText reservation
            (reserveUploadScript limits units reservationTtl observe now
              (db.quota names, db.texts reservation)).2.2) := by
  cases live : RedisKey.get (db.texts reservation) now with
  | some key =>
      simp [reserveUploadLua, reserveKeys, reserveUploadScript, live,
        alreadyReservedReply, ReservationReply.numbers, WindowsReply.numbers]
  | none =>
      let reading := readWindows limits units now (db.quota names)
      have reads : reserveUploadScript limits units reservationTtl observe now
          (db.quota names, db.texts reservation) =
            if reading.denied limits units && !observe then
              (⟨1, deniedReply reading⟩, db.quota names, db.texts reservation)
            else if reading.denied limits units then
              (⟨1, deniedReply reading⟩, db.quota names,
                some ⟨reservedValue, some (RedisKey.expiry now reservationTtl)⟩)
            else
              (reservedReply limits units reading,
                chargeWindows limits units now reading (db.quota names),
                some ⟨reservedValue, some (RedisKey.expiry now reservationTtl)⟩) := by
        rw [reserveUploadScript]
        simp only [live]
        rfl
      rw [reads]
      simp only [reserveUploadLua, reserveKeys, reserveArgv, live, Option.isSome_none,
        Bool.false_eq_true, if_false, reserveBucket_eq, consumeBucket_eq]
      have literal : (0 < limits.minute &&
            (readBucket (db.hashes names.minute) limits.minute 60 units now).tokens +
              1 / 1000000 < (units : ℚ) ||
          0 < limits.hourly &&
            (readBucket (db.hashes names.hourly) limits.hourly 3600 units now).tokens +
              1 / 1000000 < (units : ℚ) ||
          0 < limits.daily &&
            (limits.daily : Int) < (db.counter now names.daily).getD 0 + units : Bool) =
        reading.denied limits units := rfl
      simp only [literal]
      cases denied : reading.denied limits units with
      | false =>
          simp only [Bool.false_and, Bool.not_false, Bool.false_eq_true, if_false, if_true]
          exact congrArg
            (fun left : Int × Int × Int × RedisDb Name =>
              (([1, 1, left.1, left.2.1, left.2.2.1, reading.minute.retry,
                  reading.hourly.retry, reading.dailyRetry] : List Int),
                left.2.2.2.setText now reservation reservedValue reservationTtl))
            (windows_charged db names limits reading rfl)
      | true =>
          cases observe with
          | false =>
              simp only [Bool.not_false, Bool.and_self, Bool.toNat_false, BEq.rfl, if_true,
                RedisDb.withQuota_quota, RedisDb.withText_self]
              rfl
          | true =>
              simp only [Bool.not_true, Bool.and_false, Bool.toNat_true, Bool.false_eq_true,
                if_true, if_false, RedisDb.withQuota_quota]
              rfl

end Refinement

end AdmissionScripts

end ContractMate
