import ContractMate.AdmissionScripts

/-!
# Agreement of the two admission scripts

The limiter's client around the scripts, and what a reservation has in common with
plain consumption.
-/

namespace ContractMate

namespace AdmissionScripts

open PythonText

/-! ## The client -/

/-- `_KEY_PREFIX`. -/
def quotaKeyHead : Text := "samvid:ratelimit:v1".toList

/-- `_RESERVATION_PREFIX`. -/
def reservationKeyHead : Text := "samvid:upload-reservation:v1".toList

section Client

variable (hashIdentifier : Text → Text)

/-- `_quota_keys`. -/
def quotaNames (operation : String) (identifier : Text) : QuotaNames Text :=
  let identityHash := hashIdentifier identifier
  let shared := quotaKeyHead ++ ':' :: operation.toList ++ ':' :: identityHash
  { minute := shared ++ ":minute".toList
    hourly := shared ++ ":hour".toList
    daily := shared ++ ":day".toList
    distinct := by simp }

/-- `_reservation_key`. -/
def reservationName (identifier pathname : Text) : Text :=
  reservationKeyHead ++ ':' :: hashIdentifier identifier ++
    ':' :: hashIdentifier pathname

variable (intOfText : String → Option Int) (settings : LimiterSettings)
  (policy : RateLimitPolicy) (identifier pathname : Text) (ttlSeconds units : Int)
  (now : RedisTime) (db : RedisDb Text)

/-- `UpstashRateLimiter.consume`. -/
def consume : Except Exn RateLimitDecision × RedisDb Text :=
  if units < 1 then (.error (Exn.valueError "units must be at least 1"), db)
  else if identifier = [] then (.error (Exn.valueError "identifier is required"), db)
  else if !settings.configured then (.ok (disabledDecision settings), db)
  else
    let names := quotaNames hashIdentifier policy.operation identifier
    let (result, db) :=
      consumeWindowsLua now (consumeKeys names)
        (consumeArgv policy.limits units.toNat) db
    (consumeDecision intOfText settings (scriptReply result), db)

/-- `UpstashRateLimiter.reserve_upload`. -/
def reserveUpload : Except Exn RateLimitDecision × RedisDb Text :=
  if pathname = [] then (.error (Exn.valueError "pathname is required"), db)
  else if units < 1 then (.error (Exn.valueError "units must be at least 1"), db)
  else if !settings.configured then (.ok (disabledDecision settings), db)
  else
    let names := quotaNames hashIdentifier policy.operation identifier
    let (result, db) :=
      reserveUploadLua now
        (reserveKeys (reservationName hashIdentifier identifier pathname) names)
        (reserveArgv policy.limits units.toNat (max 1 ttlSeconds).toNat
          (settings.mode = .observe)) db
    (reserveDecision intOfText settings (scriptReply result), db)

end Client

/-! ## What the client reads -/

/-- The numbers of a script as the client keeps them. -/
def parsedWindows (reply : WindowsReply) : ParsedResult where
  allowed := reply.allowed
  minuteRemaining := if reply.minuteRemaining < 0 then none else some reply.minuteRemaining
  hourlyRemaining := if reply.hourlyRemaining < 0 then none else some reply.hourlyRemaining
  dailyRemaining := if reply.dailyRemaining < 0 then none else some reply.dailyRemaining
  minuteRetry := max 0 reply.minuteRetry
  hourlyRetry := max 0 reply.hourlyRetry
  dailyRetry := max 0 reply.dailyRetry

section Reading

variable {intOfText : String → Option Int} {settings : LimiterSettings}

theorem parseResult_numbers (intOfText : String → Option Int) (reply : WindowsReply) :
    parseResult intOfText (reply.numbers.map Json.int) = .ok (parsedWindows reply) := by
  cases allowed : reply.allowed <;>
    simp [WindowsReply.numbers, allowed, parseResult, optionalRemaining, Json.toInt,
      parsedWindows, bind, Except.bind, pure, Except.pure]

theorem consumeDecision_numbers (reply : WindowsReply) :
    consumeDecision intOfText settings (scriptReply reply.numbers) =
      .ok (decisionFromResult settings (parsedWindows reply)) := by
  have read : readConsumed intOfText (scriptReply reply.numbers) =
      .ok (parsedWindows reply) := parseResult_numbers intOfText reply
  rw [consumeDecision, read]
  rfl

theorem reserveDecision_numbers (reply : ReservationReply) :
    reserveDecision intOfText settings (scriptReply reply.numbers) =
      .ok (if reply.action = 2 then reservedDecision settings
        else decisionFromResult settings (parsedWindows reply.windows)) := by
  have list : resultList (scriptReply reply.numbers) =
      .ok (Json.int reply.action :: reply.windows.numbers.map Json.int) := rfl
  have read : readReserved intOfText (scriptReply reply.numbers) =
      .ok ((reply.action : Int), parsedWindows reply.windows) := by
    rw [readReserved, list]
    simp only [bind, Except.bind, parseResult_numbers]
    rfl
  rw [reserveDecision, read]
  have same : (reply.action : Int) = 2 ↔ reply.action = 2 := by omega
  simp only [decideOn, same]

end Reading

/-! ## The scripts side by side -/

section Agreement

variable (limits : WindowLimits) (units ttl : Nat) (observe : Bool) {now : RedisTime}
  (quota : QuotaKeys) {reservation : Option (RedisKey Text)}

/-- A bucket that admits the request has no wait to report. -/
theorem retry_of_admitted (key : Option (RedisKey (TokenBucket.Bucket ℚ)))
    (capacity interval : Nat)
    (admitted : ¬ (0 < capacity ∧
      (readBucket key capacity interval units now).tokens + admissionTolerance < units)) :
    (readBucket key capacity interval units now).retry = 0 := by
  by_cases limited : capacity = 0
  · simp [readBucket, limited]
  · have enough : ¬ (readBucket key capacity interval units now).tokens +
        admissionTolerance < units := fun short => admitted ⟨by omega, short⟩
    simp only [readBucket, limited, if_false] at enough ⊢
    rw [if_neg enough]

/-- Without a reservation the second script decides, reports and charges as the
first. -/
theorem reserveUploadScript_of_none (missing : RedisKey.get reservation now = none) :
    (reserveUploadScript limits units ttl observe now (quota, reservation)).1 =
        ⟨1, (consumeWindows limits units now quota).1⟩ ∧
      (reserveUploadScript limits units ttl observe now (quota, reservation)).2.1 =
        (consumeWindows limits units now quota).2 := by
  simp only [reserveUploadScript, missing, consumeWindows]
  cases denied : (readWindows limits units now quota).denied limits units with
  | true => cases observe <;> simp
  | false =>
      simp only [WindowsReading.denied, Bool.or_eq_false_iff, Bool.and_eq_false_iff,
        decide_eq_false_iff_not] at denied
      obtain ⟨⟨minute, hourly⟩, daily⟩ := denied
      have minuteRetry : (readWindows limits units now quota).minute.retry = 0 := by
        apply retry_of_admitted
        rintro ⟨limited, short⟩
        exact minute.elim (· limited) (· short)
      have hourlyRetry : (readWindows limits units now quota).hourly.retry = 0 := by
        apply retry_of_admitted
        rintro ⟨limited, short⟩
        exact hourly.elim (· limited) (· short)
      have dailyRetry : (readWindows limits units now quota).dailyRetry = 0 := by
        apply if_neg
        rintro ⟨limited, short⟩
        exact daily.elim (· limited) (· short)
      simp [reservedReply, minuteRetry, hourlyRetry, dailyRetry, chargedReply]

/-- The reservation is set when the request is admitted or only observed. -/
theorem reserved_of_none (missing : RedisKey.get reservation now = none) :
    (RedisKey.get
        (reserveUploadScript limits units ttl observe now (quota, reservation)).2.2
        now).isSome =
      ((consumeWindows limits units now quota).1.allowed || observe) := by
  have live : (RedisKey.get (some (RedisKey.mk reservedValue
      (some (RedisKey.expiry now ttl)))) now).isSome = true := by
    have later : now.millis ≤ RedisKey.expiry now ttl := Nat.le_add_right ..
    rw [RedisKey.get_of_le _ later]
    rfl
  simp only [reserveUploadScript, missing, consumeWindows]
  cases denied : (readWindows limits units now quota).denied limits units with
  | true => cases observe <;> simp [missing, live, deniedReply]
  | false => simp [live, chargedReply]

theorem quota_of_denied (denied : (consumeWindows limits units now quota).1.allowed = false) :
    (consumeWindows limits units now quota).2 = quota := by
  unfold consumeWindows at denied ⊢
  by_cases refused : (readWindows limits units now quota).denied limits units = true
  · simp [refused]
  · simp [refused, chargedReply] at denied

/-- A refusal that is enforced leaves the reservation unset as well. -/
theorem reserveUploadScript_of_refused (missing : RedisKey.get reservation now = none)
    (denied : (consumeWindows limits units now quota).1.allowed = false) :
    (reserveUploadScript limits units ttl false now (quota, reservation)).2 =
      (quota, reservation) := by
  unfold consumeWindows at denied
  by_cases refused : (readWindows limits units now quota).denied limits units = true
  · simp [reserveUploadScript, missing, refused]
  · simp [refused, chargedReply] at denied

end Agreement

section Answers

variable (hashIdentifier : Text → Text) (intOfText : String → Option Int)
  {settings : LimiterSettings} (policy : RateLimitPolicy) (identifier : Text)
  {pathname : Text} (ttlSeconds : Int) {units : Int} (now : RedisTime) (db : RedisDb Text)

theorem consume_of_configured (configured : settings.configured = true)
    (identified : identifier ≠ []) (positive : ¬ units < 1) :
    consume hashIdentifier intOfText settings policy identifier units now db =
      let names := quotaNames hashIdentifier policy.operation identifier
      let left := consumeWindows policy.limits units.toNat now (db.quota names)
      (.ok (decisionFromResult settings (parsedWindows left.1)),
        db.withQuota names left.2) := by
  simp only [consume, positive, if_false, identified, configured, Bool.not_true,
    Bool.false_eq_true, consumeWindowsLua_eq, consumeDecision_numbers]

theorem reserveUpload_of_configured (configured : settings.configured = true)
    (named : pathname ≠ []) (positive : ¬ units < 1) :
    reserveUpload hashIdentifier intOfText settings policy identifier pathname ttlSeconds
        units now db =
      let names := quotaNames hashIdentifier policy.operation identifier
      let reservation := reservationName hashIdentifier identifier pathname
      let left := reserveUploadScript policy.limits units.toNat (max 1 ttlSeconds).toNat
        (settings.mode = .observe) now (db.quota names, db.texts reservation)
      (.ok (if left.1.action = 2 then reservedDecision settings
          else decisionFromResult settings (parsedWindows left.1.windows)),
        (db.withQuota names left.2.1).withText reservation left.2.2) := by
  simp only [reserveUpload, named, if_false, positive, configured, Bool.not_true,
    Bool.false_eq_true, reserveUploadLua_eq, reserveDecision_numbers]

/-- A live reservation is answered without a charge. -/
theorem reserveUpload_of_some {key : RedisKey Text} (configured : settings.configured = true)
    (named : pathname ≠ []) (positive : ¬ units < 1)
    (live : RedisKey.get (db.texts (reservationName hashIdentifier identifier pathname)) now =
      some key) :
    reserveUpload hashIdentifier intOfText settings policy identifier pathname ttlSeconds
        units now db =
      (.ok (reservedDecision settings), db) := by
  rw [reserveUpload_of_configured hashIdentifier intOfText policy identifier ttlSeconds now db
    configured named positive]
  simp [reserveUploadScript, live, alreadyReservedReply]

/-- Without a reservation the answer and the charge are those of `consume`. -/
theorem reserveUpload_of_none (configured : settings.configured = true)
    (named : pathname ≠ []) (positive : ¬ units < 1)
    (missing : RedisKey.get (db.texts (reservationName hashIdentifier identifier pathname))
      now = none) :
    ∃ key : Option (RedisKey Text),
      let names := quotaNames hashIdentifier policy.operation identifier
      let left := consumeWindows policy.limits units.toNat now (db.quota names)
      reserveUpload hashIdentifier intOfText settings policy identifier pathname ttlSeconds
          units now db =
        (.ok (decisionFromResult settings (parsedWindows left.1)),
          (db.withQuota names left.2).withText
            (reservationName hashIdentifier identifier pathname) key) ∧
      (RedisKey.get key now).isSome = (left.1.allowed || settings.mode = .observe) := by
  obtain ⟨reply, quota⟩ := reserveUploadScript_of_none policy.limits units.toNat
    (max 1 ttlSeconds).toNat (settings.mode = .observe)
    (db.quota (quotaNames hashIdentifier policy.operation identifier)) missing
  have live := reserved_of_none policy.limits units.toNat (max 1 ttlSeconds).toNat
    (settings.mode = .observe)
    (db.quota (quotaNames hashIdentifier policy.operation identifier)) missing
  rw [reserveUpload_of_configured hashIdentifier intOfText policy identifier ttlSeconds now db
    configured named positive]
  refine ⟨_, ?_, live⟩
  simp only [reply, quota, OfNat.one_ne_ofNat, if_false]

end Answers

/-- `reserve_upload` and `consume` on any database of a configured limiter.  Without a
reservation of the pathname they decide, report and charge alike; a reservation, or a
request that would be denied, leaves the quota as it was; and a reservation appears
exactly with an effective admission. -/
theorem admission_scripts_agree (hashIdentifier : Text → Text)
    (intOfText : String → Option Int) (mode : RateLimitMode) (policy : RateLimitPolicy)
    (identifier pathname : Text) (ttlSeconds units : Int) (now : RedisTime)
    (db : RedisDb Text) (identified : identifier ≠ []) (named : pathname ≠ []) :
    let settings : LimiterSettings := { mode, configured := true }
    let reservation := reservationName hashIdentifier identifier pathname
    let consumed :=
      consume hashIdentifier intOfText settings policy identifier units now db
    let reserved :=
      reserveUpload hashIdentifier intOfText settings policy identifier pathname ttlSeconds
        units now db
    let unreserved := RedisKey.get (db.texts reservation) now = none
    (unreserved → reserved.1 = consumed.1 ∧ reserved.2.hashes = consumed.2.hashes ∧
        reserved.2.counters = consumed.2.counters) ∧
      (¬ unreserved → reserved.2 = db) ∧
      (∀ decision, reserved.1 = .ok decision → decision.observedAllowed = some false →
        reserved.2.hashes = db.hashes ∧ reserved.2.counters = db.counters) ∧
      (unreserved →
        ((RedisKey.get (reserved.2.texts reservation) now).isSome ↔
          ∃ decision, reserved.1 = .ok decision ∧ decision.allowed = true)) := by
  intro settings reservation consumed reserved unreserved
  by_cases positive : units < 1
  · have consumedLeft : consumed =
        (.error (Exn.valueError "units must be at least 1"), db) := by
      simp [consumed, consume, positive]
    have reservedLeft : reserved =
        (.error (Exn.valueError "units must be at least 1"), db) := by
      simp [reserved, reserveUpload, positive, named]
    rw [consumedLeft, reservedLeft]
    refine ⟨fun _ => ⟨rfl, rfl, rfl⟩, fun _ => rfl, fun _ _ _ => ⟨rfl, rfl⟩, ?_⟩
    intro missing
    simp only [unreserved] at missing
    simp [missing]
  cases found : RedisKey.get (db.texts reservation) now with
  | some key =>
      have kept : reserved = (.ok (reservedDecision settings), db) :=
        reserveUpload_of_some hashIdentifier intOfText policy identifier ttlSeconds now db rfl
          named positive found
      rw [kept]
      simp only [unreserved, found, reduceCtorEq, false_implies, and_self,
        implies_true, not_false_eq_true]
  | none =>
      let names := quotaNames hashIdentifier policy.operation identifier
      let charged := consumeWindows policy.limits units.toNat now (db.quota names)
      have consumedLeft : consumed =
          (.ok (decisionFromResult settings (parsedWindows charged.1)),
            db.withQuota names charged.2) :=
        consume_of_configured hashIdentifier intOfText policy identifier now db rfl identified
          positive
      have configured : settings.configured = true := rfl
      obtain ⟨key, reservedLeft, live⟩ := reserveUpload_of_none hashIdentifier intOfText
        policy identifier ttlSeconds now db configured named positive found
      have reservedLeft : reserved =
          (.ok (decisionFromResult settings (parsedWindows charged.1)),
            (db.withQuota names charged.2).withText reservation key) := reservedLeft
      rw [consumedLeft, reservedLeft]
      refine ⟨fun _ => ⟨rfl, rfl, rfl⟩, fun found' => absurd found found', ?_, fun _ => ?_⟩
      · intro decision same refused
        cases same
        have denied : charged.1.allowed = false := by
          simpa [decisionFromResult, parsedWindows] using refused
        have kept := quota_of_denied policy.limits units.toNat (db.quota names) denied
        have restored : db.withQuota names charged.2 = db := by
          rw [show charged.2 = db.quota names from kept, RedisDb.withQuota_quota]
        rw [restored]
        exact ⟨rfl, rfl⟩
      · simp only [RedisDb.withText, Function.update_self]
        rw [live]
        simp [decisionFromResult, parsedWindows, charged, names]

/-- The five reviews of an hour are used up. -/
def spentReviews : RedisDb Text :=
  (consume id (fun _ => none) ⟨.enforce, true⟩ reviewPolicy "a".toList 5 0 {}).2

def laterReview (now : RedisTime) : Except Exn RateLimitDecision × RedisDb Text :=
  consume id (fun _ => none) ⟨.enforce, true⟩ reviewPolicy "a".toList 1 now spentReviews

def laterUpload (now : RedisTime) : Except Exn RateLimitDecision × RedisDb Text :=
  reserveUpload id (fun _ => none) ⟨.enforce, true⟩ reviewPolicy "a".toList "p".toList 1800 1
    now spentReviews

/-- Six minutes later a first reservation is denied as a review is, and twelve minutes later
it is admitted and counted as one. -/
theorem admission_scripts_agree_first :
    (laterReview 360000000).1.toOption.map RateLimitDecision.allowed = some false ∧
      (laterUpload 360000000).1 = (laterReview 360000000).1 ∧
      (laterUpload 360000000).2.counters = (laterReview 360000000).2.counters ∧
      (laterReview 720000000).1.toOption.map RateLimitDecision.allowed = some true ∧
      (laterUpload 720000000).1 = (laterReview 720000000).1 ∧
      (laterUpload 720000000).2.counters = (laterReview 720000000).2.counters := by
  obtain ⟨denied, _, kept⟩ := (admission_scripts_agree id (fun _ => none) .enforce reviewPolicy
    "a".toList "p".toList 1800 1 360000000 spentReviews (by decide) (by decide)).1
      (by decide +kernel)
  obtain ⟨admitted, _, counted⟩ := (admission_scripts_agree id (fun _ => none) .enforce
    reviewPolicy "a".toList "p".toList 1800 1 720000000 spentReviews (by decide)
      (by decide)).1 (by decide +kernel)
  exact ⟨by decide +kernel, denied, kept, by decide +kernel, admitted, counted⟩

end AdmissionScripts

end ContractMate
