import ContractMate.AdmissionBounds
import ContractMate.AdmissionOutage
import ContractMate.ProgramPool

/-!
# Retries of an admitted email

Any number of deliveries of inbound emails run interleaved, and each is charged
anew for the attachments of its email.  An email that was admitted once is not
refused later if every later check finds room in the windows beside the checks
before it.
-/

namespace ContractMate

open TokenBucket

/-- Database and Redis clocks move on. -/
structure ClockTick where
  database : Nat
  redis : Nat
deriving DecidableEq, Repr

def IntakeWorld.tick (world : IntakeWorld) (tick : ClockTick) : IntakeWorld :=
  { world with
    review := { world.review with now := world.review.now + tick.database }
    redisNow := world.redisNow + tick.redis }

/-- The deliveries of the webhook. -/
def inboundPool (library : MailFunctions) (settings : InboundSettings)
    (intOfText : String → Option Int) :
    PoolSystem ResendWebhookEvent IntakeCall IntakeCall.Ret Exn ResendInboundResult
      IntakeWorld IntakeChoice ClockTick where
  body := ResendInbound.process library settings intOfText
  respond := IntakeWorld.respond intOfText
  outside := fun tick world => some (world.tick tick)

abbrev InboundStep :=
  PoolStep ResendWebhookEvent IntakeCall IntakeCall.Ret Exn ResendInboundResult
    IntakeWorld IntakeChoice ClockTick

abbrev InboundState :=
  PoolState ResendWebhookEvent IntakeCall IntakeCall.Ret Exn ResendInboundResult
    IntakeWorld

abbrev InboundAnswer :=
  PoolAnswer ResendWebhookEvent IntakeCall IntakeCall.Ret Exn IntakeWorld
    IntakeChoice

/-! ## Checks -/

/-- An admission check: whose it is, what it asks for, whether its script ran,
whether it was answered, and what its reply was read as. -/
structure AdmissionCheck where
  emailId : String
  policy : RateLimitPolicy
  identifier : String
  units : Nat
  time : RedisTime
  ran : Bool
  answered : Bool
  verdict : Option Bool
deriving DecidableEq

/-- The script of a request ran. -/
def LimiterOutcome.ran : LimiterOutcome → Bool
  | answered => true
  | garbled ran _ => ran

/-- The client can read the reply. -/
def LimiterOutcome.isAnswer : LimiterOutcome → Bool
  | answered => true
  | garbled .. => false

section Checks

variable (intOfText : String → Option Int)

/-- What the client reads in a reply. -/
def verdictOf : Except Exn HttpReply → Option Bool
  | .ok reply =>
      match readConsumed intOfText reply with
      | .ok parsed => some parsed.allowed
      | .error _ => none
  | .error _ => none

def InboundAnswer.check? (answer : InboundAnswer) : Option AdmissionCheck :=
  match answer with
  | ⟨_, event, .limiter (.consume policy identifier units), .limiter outcome,
      reply, world, _⟩ =>
      some
        { emailId := event.emailId
          policy, identifier, units
          time := world.redisNow
          ran := outcome.ran
          answered := outcome.isAnswer
          verdict := verdictOf intOfText reply }
  | _ => none

variable (library : MailFunctions) (settings : InboundSettings)

def InboundStep.check? (step : InboundStep) : Option AdmissionCheck :=
  ((inboundPool library settings intOfText).answer? step).bind
    (InboundAnswer.check? intOfText)

end Checks

/-! ## Room for a check -/

/-- The units counted on a day, and the millisecond after which they are
forgotten. -/
structure DayCounter where
  units : Nat
  deadline : Nat
deriving DecidableEq, Repr

namespace DayCounter

def counted (counter : Option DayCounter) (now : RedisTime) : Nat :=
  match counter with
  | some counter => if now.millis ≤ counter.deadline then counter.units else 0
  | none => 0

/-- A counter that stood at nothing is kept to the end of its day. -/
def add (counter : Option DayCounter) (charge : Charge RedisTime) :
    Option DayCounter :=
  some
    { units := counted counter charge.time + charge.units
      deadline :=
        if counted counter charge.time = 0 then
          RedisKey.expiry charge.time (dayTtl charge.time).toNat
        else (counter.map deadline).getD 0 }

/-- The counter after some charges. -/
def after (charges : List (Charge RedisTime)) : Option DayCounter :=
  charges.foldl add none

end DayCounter

def chargeSeconds (charge : Charge RedisTime) : Charge ℚ :=
  ⟨charge.time.seconds, charge.units⟩

/-- There is room in the policy's windows for a check beside earlier charges. -/
def AdmissionCheck.Fits (check : AdmissionCheck)
    (earlier : List (Charge RedisTime)) : Prop :=
  (∀ window : BucketWindow, 0 < window.limit check.policy.limits →
    (window.shape check.policy.limits).Room check.units check.time.seconds
      (earlier.map chargeSeconds)) ∧
  (0 < check.policy.limits.daily →
    DayCounter.counted (DayCounter.after earlier) check.time + check.units ≤
      check.policy.limits.daily)

instance (check : AdmissionCheck) (earlier : List (Charge RedisTime)) :
    Decidable (check.Fits earlier) :=
  have windows (property : BucketWindow → Prop) [DecidablePred property] :
      Decidable (∀ window, property window) :=
    decidable_of_iff (property .minute ∧ property .hourly)
      ⟨fun both window => by cases window <;> simp [both],
        fun every => ⟨every .minute, every .hourly⟩⟩
  have := windows fun window => 0 < window.limit check.policy.limits →
    (window.shape check.policy.limits).Room check.units check.time.seconds
      (earlier.map chargeSeconds)
  inferInstanceAs (Decidable (_ ∧ _))

section Statement

variable (library : MailFunctions) (settings : InboundSettings)
  (intOfText : String → Option Int)

/-- What the check of a step adds to the charges of an operation and identifier. -/
def chargeOf (operation identifier : String) (earlier : List (Charge RedisTime))
    (step : InboundStep) : List (Charge RedisTime) :=
  match step.check? intOfText library settings with
  | some check =>
      if check.policy.operation = operation ∧ check.identifier = identifier ∧
          check.ran = true ∧ check.Fits earlier then
        earlier ++ [⟨check.time, check.units⟩]
      else earlier
  | none => earlier

/-- The charges of an operation and identifier in a run: the checks that ran and
had room. -/
def charges (operation identifier : String) (steps : List InboundStep) :
    List (Charge RedisTime) :=
  steps.foldl (chargeOf library settings intOfText operation identifier) []

/-- A check of the email. -/
def ChecksEmail (emailId : String) (step : InboundStep) : Prop :=
  ∃ check, step.check? intOfText library settings = some check ∧
    check.emailId = emailId

instance (emailId : String) (step : InboundStep) :
    Decidable (ChecksEmail library settings intOfText emailId step) :=
  decidable_of_iff ((step.check? intOfText library settings).any fun check =>
    decide (check.emailId = emailId)) (by simp [ChecksEmail, Option.any_eq_true])

/-- The first check of the email is at this step, and the email passes. -/
def PassesFirst (emailId : String) (steps : List InboundStep) (i : Nat) : Prop :=
  (∃ step check, steps[i]? = some step ∧
    step.check? intOfText library settings = some check ∧
    check.emailId = emailId ∧ check.verdict = some true) ∧
  ∀ j step, j < i → steps[j]? = some step →
    ¬ ChecksEmail library settings intOfText emailId step

/-- A delivery of the email ends with status `rate_limited` and leaves the event
completed. -/
def Drops (emailId : String) (step : InboundStep) : Prop :=
  ∃ event result, PoolSystem.ended? step = some (event, .ok result) ∧
    event.emailId = emailId ∧ result.status = .rateLimited ∧
    step.before.world.events.status? emailId = some .completed

instance (emailId : String) (step : InboundStep) : Decidable (Drops emailId step) :=
  match found : PoolSystem.ended? step with
  | some (event, .ok result) =>
      decidable_of_iff (event.emailId = emailId ∧ result.status = .rateLimited ∧
        step.before.world.events.status? emailId = some .completed)
        (by simp [Drops, found])
  | some (_, .error _) => isFalse (by simp [Drops, found])
  | none => isFalse (by simp [Drops, found])

/-- Once the email has passed its first check, no delivery of it drops it. -/
def RetriesSpared (emailId : String) (steps : List InboundStep) : Prop :=
  ∀ i, PassesFirst library settings intOfText emailId steps i →
    ¬ RunHistory.Later steps i (Drops emailId)

/-- Each further check of the email that is answered finds room beside the charges
before it. -/
def RetriesFit (emailId : String) (steps : List InboundStep) : Prop :=
  ∀ (i j : Nat) (first step : InboundStep) (check : AdmissionCheck), i < j → steps[i]? = some first →
    ChecksEmail library settings intOfText emailId first →
    steps[j]? = some step →
    step.check? intOfText library settings = some check →
    check.emailId = emailId → check.answered = true →
      check.Fits (charges library settings intOfText check.policy.operation
        check.identifier (steps.take j))

end Statement

/-! ## What Redis keeps of the charges -/

/-- The bucket of a window after some charges. -/
def chargedBucket (limits : WindowLimits) (earlier : List (Charge RedisTime))
    (window : BucketWindow) : Bucket ℚ :=
  (window.shape limits).debits ⟨window.limit limits, 0⟩
    (earlier.map chargeSeconds)

/-- The keys of an operation and identifier hold what the charges left. -/
structure Metered (limits : WindowLimits) (earlier : List (Charge RedisTime))
    (quota : QuotaKeys) (now : RedisTime) : Prop where
  admits : ∀ window : BucketWindow, 0 < window.limit limits →
    (window.shape limits).Admits ⟨window.limit limits, 0⟩
      (earlier.map chargeSeconds)
  tracks : ∀ window : BucketWindow, 0 < window.limit limits →
    Tracks limits window quota (chargedBucket limits earlier window) now
  daily : 0 < limits.daily →
    quota.daily = (DayCounter.after earlier).map fun counter =>
      ⟨counter.units, some counter.deadline⟩

section Metered

variable {limits : WindowLimits} {earlier : List (Charge RedisTime)}
  {quota : QuotaKeys} {now later : RedisTime} {units : Nat}

theorem Metered.start : Metered limits [] {} now where
  admits := fun _ _ => trivial
  tracks := fun _ limited => Tracks.start limited
  daily := fun _ => rfl

theorem Metered.mono (metered : Metered limits earlier quota now)
    (after : now ≤ later) : Metered limits earlier quota later where
  admits := metered.admits
  tracks := fun window limited => (metered.tracks window limited).mono after
  daily := metered.daily

theorem dailyUsed_of_counter {counter : Option DayCounter}
    (kept : quota.daily = counter.map fun counter =>
      ⟨counter.units, some counter.deadline⟩) :
    dailyUsed quota now = (DayCounter.counted counter now : Nat) := by
  rw [dailyUsed, kept]
  cases counter with
  | none => rfl
  | some counter =>
      simp only [Option.map_some, DayCounter.counted]
      by_cases alive : now.millis ≤ counter.deadline
      · rw [RedisKey.get_of_le _ alive, if_pos alive]
        rfl
      · rw [RedisKey.get_eq_none_iff.mpr (Nat.lt_of_not_le alive), if_neg alive]
        rfl

/-- A check passes exactly if there is room for it. -/
theorem Metered.fits_iff {check : AdmissionCheck}
    (metered : Metered check.policy.limits earlier quota check.time) :
    check.Fits earlier ↔
      (readWindows check.policy.limits check.units check.time quota).denied
        check.policy.limits check.units = false := by
  rw [denied_eq_false_iff]
  apply and_congr
  · apply forall_congr'
    intro window
    apply imp_congr_right
    intro limited
    have tracks := metered.tracks window limited
    have rate : 0 ≤ (window.shape check.policy.limits).rate := tracks.sound.rate
    rw [tracks.agree check.time le_rfl]
    exact (le_level_debits_full_iff rate (metered.admits window limited)
      check.time.seconds_nonneg tracks.updated).symm
  · apply imp_congr_right
    intro limited
    rw [dailyUsed_of_counter (metered.daily limited)]
    omega

/-- The script counts a charge as the counter does. -/
theorem chargeDaily_of_counter {counter : Option DayCounter}
    (limited : 0 < limits.daily)
    (kept : quota.daily = counter.map fun counter =>
      ⟨counter.units, some counter.deadline⟩) :
    chargeDaily quota limits.daily (readWindows limits units now quota) units now =
      (DayCounter.add counter ⟨now, units⟩).map fun counter =>
        ⟨counter.units, some counter.deadline⟩ := by
  have used : (readWindows limits units now quota).dailyUsed =
      (DayCounter.counted counter now : Nat) := dailyUsed_of_counter kept
  have ttl : (readWindows limits units now quota).dayTtl = dayTtl now := rfl
  simp only [chargeDaily, if_pos limited, used, ttl, DayCounter.add,
    Option.map_some]
  by_cases fresh : DayCounter.counted counter now = 0
  · simp [fresh]
  · have stale : ¬ ((DayCounter.counted counter now : Nat) : Int) + units =
        units := by omega
    rw [if_neg stale, if_neg fresh]
    cases counter with
    | none => exact absurd rfl fresh
    | some counter =>
        have alive : now.millis ≤ counter.deadline := by
          by_contra gone
          exact fresh (by simp [DayCounter.counted, gone])
        rw [kept, Option.map_some, RedisKey.get_of_le _ alive]
        simp

theorem Metered.charge (metered : Metered limits earlier quota now)
    (admitted :
      (readWindows limits units now quota).denied limits units = false) :
    Metered limits (earlier ++ [⟨now, units⟩])
      (chargeWindows limits units now (readWindows limits units now quota) quota)
      now where
  admits := by
    intro window limited
    have tracks := metered.tracks window limited
    rw [List.map_append, admits_append]
    refine ⟨metered.admits window limited, tracks.updated, ?_, trivial⟩
    have enough := window_not_denied limited admitted
    rw [tracks.agree now le_rfl] at enough
    exact enough
  tracks := by
    intro window limited
    rw [chargedBucket, List.map_append, debits_append]
    exact (metered.tracks window limited).charge limited admitted
  daily := by
    intro limited
    rw [DayCounter.after, List.foldl_append]
    exact chargeDaily_of_counter limited (metered.daily limited)

/-- The consuming script charges a check exactly if there is room for it. -/
theorem Metered.consume {check : AdmissionCheck}
    (metered : Metered check.policy.limits earlier quota check.time) :
    ((consumeWindows check.policy.limits check.units check.time quota).1.allowed =
        true ↔ check.Fits earlier) ∧
      Metered check.policy.limits
        (if check.Fits earlier then earlier ++ [⟨check.time, check.units⟩]
          else earlier)
        (consumeWindows check.policy.limits check.units check.time quota).2
        check.time := by
  have room := metered.fits_iff
  cases denied : (readWindows check.policy.limits check.units check.time
      quota).denied check.policy.limits check.units with
  | true =>
      have crowded : ¬ check.Fits earlier := by
        rw [room, denied]
        simp
      simp only [consumeWindows, denied, deniedReply, if_true, crowded, if_false]
      exact ⟨by simp, metered⟩
  | false =>
      have fits : check.Fits earlier := room.mpr denied
      simp only [consumeWindows, denied, chargedReply, Bool.false_eq_true, if_false,
        fits, if_true]
      exact ⟨by simp, metered.charge denied⟩

end Metered

/-! ## Charges along a run -/

section Charging

variable {library : MailFunctions} {settings : InboundSettings}
  {intOfText : String → Option Int} {world after : IntakeWorld} {delivery : Nat}
  {choice : IntakeChoice} {request : IntakeCall}

/-- Only requests to the limiter touch quotas, and no call moves the clock. -/
theorem IntakeWorld.respond_quota {reply : Except Exn request.Ret}
    (off : request.OffLimiter)
    (run : IntakeWorld.respond intOfText delivery choice world request =
      some (reply, after)) :
    after.quota = world.quota ∧ after.redisNow = world.redisNow := by
  cases request with
  | limiter asked => exact off.elim
  | event call =>
      rcases IntakeWorld.respond_event run with ⟨_, rfl⟩ | ⟨_, rfl⟩
      · exact ⟨rfl, rfl⟩
      · exact ⟨rfl, rfl⟩
  | service call =>
      rw [IntakeWorld.respond_service run]
      exact ⟨rfl, rfl⟩
  | review position call =>
      cases choice with
      | review choice =>
          obtain ⟨answer, _, same⟩ := Option.map_eq_some_iff.mp run
          cases same
          exact ⟨rfl, rfl⟩
      | event failure | limiter outcome | service call reply => cases run

/-- How a check comes out. -/
theorem IntakeWorld.respond_check {policy : RateLimitPolicy} {identifier : String}
    {units : Nat} {reply : Except Exn HttpReply}
    (run : IntakeWorld.respond intOfText delivery choice world
      (.limiter (.consume policy identifier units)) = some (reply, after)) :
    ∃ outcome : LimiterOutcome, choice = .limiter outcome ∧
      after = (if outcome.ran then
        (world.runScript (.consume policy identifier units)).2 else world) ∧
      (if outcome.isAnswer then
        reply =
          .ok (scriptReply (world.runScript (.consume policy identifier units)).1)
      else verdictOf intOfText reply = none) := by
  cases choice with
  | limiter outcome =>
      obtain ⟨answer, answered, same⟩ := Option.map_eq_some_iff.mp run
      cases same
      refine ⟨outcome, rfl, ?_⟩
      cases outcome with
      | answered =>
          cases answered
          exact ⟨rfl, rfl⟩
      | garbled ran text =>
          simp only [IntakeWorld.respondLimiter, Option.ite_none_right_eq_some]
            at answered
          obtain ⟨unreadable, same⟩ := answered
          cases same
          refine ⟨rfl, ?_⟩
          obtain ⟨error, raised⟩ := Option.isSome_iff_exists.mp unreadable
          have failed := raisedBy_eq_some_iff.mp raised
          simp [LimiterOutcome.isAnswer, verdictOf, failed]
  | event failure | service call reply | review choice => cases run

/-- The client reads a script's numbers as the script meant them. -/
theorem verdictOf_numbers (reply : WindowsReply) :
    verdictOf intOfText (.ok (scriptReply reply.numbers)) = some reply.allowed := by
  have lookup : resultList (scriptReply reply.numbers) =
      .ok (reply.numbers.map Json.int) := rfl
  simp only [verdictOf, readConsumed, lookup]
  cases allowed : reply.allowed <;>
    simp [WindowsReply.numbers, allowed, parseResult, optionalRemaining, Json.toInt,
      bind, Except.bind, pure, Except.pure]

theorem charges_append (operation identifier : String) (steps : List InboundStep)
    (step : InboundStep) :
    charges library settings intOfText operation identifier (steps ++ [step]) =
      chargeOf library settings intOfText operation identifier
        (charges library settings intOfText operation identifier steps) step := by
  simp [charges, List.foldl_append]

/-- All keys hold what a run has charged. -/
def KeysMetered (library : MailFunctions) (settings : InboundSettings)
    (intOfText : String → Option Int) (steps : List InboundStep)
    (world : IntakeWorld) : Prop :=
  ∀ operation identifier,
    Metered (settings.policies.named operation).limits
      (charges library settings intOfText operation identifier steps)
      (world.quota operation identifier) world.redisNow

variable {steps : List InboundStep} {step : InboundStep}

/-- A step without a check leaves the charges. -/
theorem KeysMetered.unchecked
    (metered : KeysMetered library settings intOfText steps step.before.world)
    (unchecked : step.check? intOfText library settings = none)
    (quota : after.quota = step.before.world.quota)
    (clock : step.before.world.redisNow ≤ after.redisNow) :
    KeysMetered library settings intOfText (steps ++ [step]) after := by
  intro operation identifier
  rw [charges_append, chargeOf, unchecked, quota]
  exact (metered operation identifier).mono clock

/-- A check under the policy of its operation charges its own key. -/
theorem KeysMetered.checked {check : AdmissionCheck}
    (metered : KeysMetered library settings intOfText steps step.before.world)
    (checked : step.check? intOfText library settings = some check)
    (named : check.policy = settings.policies.named check.policy.operation)
    (time : check.time = step.before.world.redisNow)
    (effect : after = if check.ran then
      (step.before.world.runScript
        (.consume check.policy check.identifier check.units)).2
      else step.before.world) :
    KeysMetered library settings intOfText (steps ++ [step]) after := by
  intro operation identifier
  have here := metered operation identifier
  rw [charges_append, chargeOf, checked]
  dsimp only
  by_cases ran : check.ran = true
  · rw [if_pos ran] at effect
    by_cases same : check.policy.operation = operation ∧
        check.identifier = identifier
    · obtain ⟨rfl, rfl⟩ := same
      rw [← named, ← time] at here
      rw [← named, effect]
      simp only [true_and, ran]
      simpa [IntakeWorld.runScript, ← time] using here.consume.2
    · have other : (after.quota operation identifier) =
          step.before.world.quota operation identifier := by
        rw [effect]
        by_cases first : operation = check.policy.operation
        · subst first
          have second : identifier ≠ check.identifier :=
            fun equal => same ⟨rfl, equal.symm⟩
          simp [IntakeWorld.runScript, second]
        · simp [IntakeWorld.runScript, first]
      have clock : after.redisNow = step.before.world.redisNow := by
        rw [effect]
        rfl
      rw [if_neg (fun all => same ⟨all.1, all.2.1⟩), other, clock]
      exact here
  · rw [if_neg ran] at effect
    rw [if_neg (fun all => ran all.2.2.1), effect]
    exact here

variable {start : IntakeWorld} {final : InboundState}

/-- What a step with an answer checks. -/
theorem check?_of_answer {answer : InboundAnswer}
    (answered : (inboundPool library settings intOfText).answer? step =
      some answer) :
    step.check? intOfText library settings = answer.check? intOfText := by
  rw [InboundStep.check?, answered]
  rfl

/-- The pool answers the calls of deliveries. -/
theorem processes_of_answer
    (run : (inboundPool library settings intOfText).Run start steps final)
    (member : step ∈ steps) {answer : InboundAnswer}
    (answered : (inboundPool library settings intOfText).answer? step =
      some answer) :
    answer.request.Processes settings.policies := by
  have bodies (event : ResendWebhookEvent) :
      ((inboundPool library settings intOfText).body event).Calls
        (IntakeCall.Processes settings.policies) :=
    ResendInbound.process_calls library settings intOfText event
  exact PoolSystem.calls_of_run run bodies member answered

/-- A run of deliveries meters all keys. -/
theorem keysMetered_of_run
    (fresh : ∀ operation identifier, start.quota operation identifier = {})
    (run : (inboundPool library settings intOfText).Run start steps final) :
    KeysMetered library settings intOfText steps final.world := by
  induction run with
  | nil =>
      intro operation identifier
      rw [fresh operation identifier]
      exact Metered.start
  | @step steps state run next starts permitted induction =>
      have longer := run.step next starts permitted
      have before : KeysMetered library settings intOfText steps
          next.before.world := by
        rw [starts]
        exact induction
      have moves := PoolSystem.moves_of_allowed permitted
      generalize (inboundPool library settings intOfText).after next = reached
        at moves longer ⊢
      obtain ⟨event, state⟩ := next
      cases moves with
      | start idle launched =>
          cases launched
          exact before.unchecked rfl rfl le_rfl
      | @call thread choice task request next reply world stands answered =>
          have answer :=
            PoolSystem.answer?_of_call (inboundPool library settings intOfText) stands answered
          have checks := processes_of_answer longer (by simp) answer
          have read := check?_of_answer answer
          cases request with
          | limiter asked =>
              cases asked with
              | consume policy identifier units =>
                  obtain ⟨outcome, rfl, effect, _⟩ :=
                    IntakeWorld.respond_check answered
                  exact before.checked read checks rfl effect
              | reserve policy identifier pathname ttlSeconds units observe =>
                  exact checks.elim
          | event call =>
              have off : (IntakeCall.event call).OffLimiter := trivial
              have kept := IntakeWorld.respond_quota off answered
              exact before.unchecked read kept.1 (Nat.le_of_eq kept.2.symm)
          | service call =>
              have off : (IntakeCall.service call).OffLimiter := trivial
              have kept := IntakeWorld.respond_quota off answered
              exact before.unchecked read kept.1 (Nat.le_of_eq kept.2.symm)
          | review position call =>
              have off : (IntakeCall.review position call).OffLimiter := trivial
              have kept := IntakeWorld.respond_quota off answered
              exact before.unchecked read kept.1 (Nat.le_of_eq kept.2.symm)
      | stop stands => exact before.unchecked rfl rfl le_rfl
      | outside happens =>
          cases happens
          exact before.unchecked rfl rfl (Nat.le_add_right _ _)

/-- The check of a step is the call it answers, and an answer says what the script
decided. -/
theorem check?_eq_some {check : AdmissionCheck}
    (checked : step.check? intOfText library settings = some check) :
    ∃ answer, (inboundPool library settings intOfText).answer? step = some answer ∧
      answer.request =
        .limiter (.consume check.policy check.identifier check.units) ∧
      answer.task.emailId = check.emailId ∧
      check.time = step.before.world.redisNow ∧
      (check.answered = false → check.verdict = none) ∧
      (check.answered = true → check.verdict =
        some (consumeWindows check.policy.limits check.units check.time
          (step.before.world.quota check.policy.operation
            check.identifier)).1.allowed) := by
  obtain ⟨answer, answered, read⟩ := Option.bind_eq_some_iff.mp checked
  refine ⟨answer, answered, ?_⟩
  obtain ⟨called, stands, found, responded⟩ :=
    PoolSystem.answer?_eq_some_iff.mp answered
  unfold InboundAnswer.check? at read
  split at read
  · rename_i thread event policy identifier units outcome reply world after
    cases read
    obtain rfl : world = step.before.world := found
    have responded : IntakeWorld.respond intOfText thread (.limiter outcome)
        step.before.world (.limiter (.consume policy identifier units)) =
          some (reply, after) := responded
    obtain ⟨same, chosen, _, replied⟩ := IntakeWorld.respond_check responded
    obtain rfl : outcome = same := IntakeChoice.limiter.inj chosen
    refine ⟨rfl, rfl, rfl, ?_, ?_⟩
    · intro unanswered
      rw [if_neg (by simpa using unanswered)] at replied
      exact replied
    · intro given
      rw [if_pos (by simpa using given)] at replied
      dsimp only
      rw [replied]
      exact verdictOf_numbers _
  · cases read

/-- A check that is answered and has room passes. -/
theorem passes_of_fits
    (fresh : ∀ operation identifier, start.quota operation identifier = {})
    (run : (inboundPool library settings intOfText).Run start steps final)
    {j : Nat} (found : steps[j]? = some step) {check : AdmissionCheck}
    (checked : step.check? intOfText library settings = some check)
    (answered : check.answered = true)
    (fits : check.Fits (charges library settings intOfText check.policy.operation
      check.identifier (steps.take j))) :
    check.verdict = some true := by
  obtain ⟨answer, replied, asked, _, time, _, decided⟩ := check?_eq_some checked
  have checks := processes_of_answer run (RunHistory.mem_of_getElem? found)
    replied
  rw [asked] at checks
  have named : check.policy = settings.policies.named check.policy.operation :=
    checks
  have metered := keysMetered_of_run fresh (run.take found)
    check.policy.operation check.identifier
  rw [← named, ← time] at metered
  rw [decided answered, metered.consume.1.mpr fits]

end Charging

/-! ## Deliveries that are not refused -/

/-- An answer that does not refuse. -/
def IntakeCall.NotRefused (intOfText : String → Option Int) :
    (request : IntakeCall) → Except Exn request.Ret → Prop
  | .limiter _, reply => verdictOf intOfText reply ≠ some false
  | _, _ => True

/-- Any call may be made, and no answer refuses. -/
def unrefusedMonitor (intOfText : String → Option Int) :
    Monitor IntakeCall IntakeCall.Ret Exn where
  Phase := Unit
  permitted := fun _ _ => True
  answers := fun _ request reply _ => request.NotRefused intOfText reply

section Unrefused

variable {library : MailFunctions} {settings : InboundSettings}
  {intOfText : String → Option Int} {event : ResendWebhookEvent} {Value : Type}

theorem unrefused_any {program : IntakeProg Value} :
    (unrefusedMonitor intOfText).Conforms program (fun _ _ => True) () :=
  Monitor.conforms_of_permitted fun _ _ => trivial

/-- Only a refusal limits, unless the limiter is unavailable. -/
theorem unavailable_of_not_allowed {limiter : LimiterSettings} {reply : HttpReply}
    {decision : RateLimitDecision}
    (unrefused : verdictOf intOfText (.ok reply) ≠ some false)
    (decided : consumeDecision intOfText limiter reply = .ok decision)
    (limited : decision.allowed = false) : decision.reason = .unavailable := by
  unfold consumeDecision decideOn at decided
  unfold verdictOf at unrefused
  cases read : readConsumed intOfText reply with
  | ok parsed =>
      simp only [read] at decided unrefused
      cases decided
      cases allowed : parsed.allowed with
      | true => simp [decisionFromResult, allowed] at limited
      | false => exact absurd (congrArg some allowed) unrefused
  | error error =>
      simp only [read] at decided
      split_ifs at decided
      cases decided
      rfl

theorem unrefused_refused (account : Option UserAccount) (sender : String)
    (units : Nat) :
    (unrefusedMonitor intOfText).Conforms
      (ResendInbound.refused settings intOfText account sender units)
      (fun result _ => result ≠ .ok true) () := by
  have consumed (limiter : LimiterSettings) (policy : RateLimitPolicy)
      (identifier : String) :
      (unrefusedMonitor intOfText).Conforms
        (ResendInbound.consume intOfText limiter policy identifier units)
        (fun result _ => ∀ decision, result = .ok decision →
          decision.allowed = false → decision.reason = .unavailable) () := by
    unfold ResendInbound.consume
    split_ifs
    · exact fun _ raised => nomatch raised
    · exact fun _ raised => nomatch raised
    · rintro decision same
      cases same
      intro limited
      cases limited
    · constructor
      · trivial
      · rintro reply after unrefused
        cases reply with
        | error error => exact fun _ raised => nomatch raised
        | ok reply =>
            intro decision decided limited
            exact unavailable_of_not_allowed unrefused decided limited
  unfold ResendInbound.refused
  split
  · exact fun same => nomatch same
  · apply (consumed _ _ _).bind
    · intro decision _ allowed
      split_ifs with unavailable
      · simp
      · have admitted : decision.allowed = true := by
          by_contra limited
          have limited : decision.allowed = false := by simpa using limited
          exact unavailable ⟨allowed decision rfl limited, limited⟩
        simp [admitted]
    · simp

/-- A result that does not limit. -/
def Unlimited (result : Except Exn ResendInboundResult) : Prop :=
  ∀ value, result = .ok value → value.status ≠ .rateLimited

/-- A preparation that does not end limited. -/
def UnlimitedSoFar
    (result : Except Exn (ResendInboundResult ⊕ ResendInbound.PreparedEmail)) :
    Prop :=
  ∀ value, result = .ok (.inl value) → value.status ≠ .rateLimited

theorem unrefused_completeWith (result : ResendInboundResult) :
    (unrefusedMonitor intOfText).Conforms
      (ResendInbound.completeWith event result)
      (fun returned _ => ∀ value, returned = .ok value → value = result) () := by
  apply Monitor.Conforms.perform trivial
  · rintro _ _ _ value same
    cases same
    rfl
  · rintro error _ _ value raised
    cases raised

theorem unrefused_completed {result : ResendInboundResult}
    (unlimited : result.status ≠ .rateLimited) :
    (unrefusedMonitor intOfText).Conforms
      (do
        let result ← ResendInbound.completeWith event result
        pure (Sum.inl result) :
          IntakeProg (ResendInboundResult ⊕ ResendInbound.PreparedEmail))
      (fun returned _ => UnlimitedSoFar returned) () := by
  apply (unrefused_completeWith result).bind
  · rintro value _ same returned found
    cases found
    rw [same value rfl]
    exact unlimited
  · rintro error _ _ value raised
    cases raised

theorem unrefused_prepareAdmitted (email : ReceivedEmail)
    (senderName : Option String) (sender : String)
    (supported : List ReceivedAttachment) (ignored : List String) :
    (unrefusedMonitor intOfText).Conforms
      (ResendInbound.prepareAdmitted library settings intOfText event email
        senderName sender supported ignored)
      (fun result _ => UnlimitedSoFar result) () := by
  have raises (error : Exn) : UnlimitedSoFar (.error error) :=
    fun _ raised => nomatch raised
  apply unrefused_any.bind
  · intro account _ _
    apply (unrefused_refused account sender supported.length).bind
    · intro isRefused _ unrefused
      have admitted : isRefused = false := by
        cases isRefused with
        | false => rfl
        | true => exact absurd rfl unrefused
      rw [if_neg (by simp [admitted])]
      apply unrefused_any.bind
      · intro workspace _ _
        cases workspace with
        | none => exact unrefused_completed (by simp [ResendInbound.outcome])
        | some workspaceId =>
            apply unrefused_any.bind
            · intro _ _ _
              apply unrefused_any.bind
              · rintro downloads _ _ value same
                cases same
              · exact fun error _ _ => raises error
            · exact fun error _ _ => raises error
      · exact fun error _ _ => raises error
    · exact fun error _ _ => raises error
  · exact fun error _ _ => raises error

theorem unrefused_prepare :
    (unrefusedMonitor intOfText).Conforms
      (ResendInbound.prepare library settings intOfText event)
      (fun result _ => UnlimitedSoFar result) () := by
  have raises (error : Exn) : UnlimitedSoFar (.error error) :=
    fun _ raised => nomatch raised
  apply unrefused_any.bind
  · intro email _ _
    split
    · exact unrefused_completed (by simp [ResendInbound.outcome])
    · split
      · exact unrefused_completed (by simp [ResendInbound.outcome])
      · apply unrefused_any.bind
        · intro attachments _ _
          dsimp only
          split
          · exact unrefused_completed (by simp [ResendInbound.outcome])
          · exact unrefused_prepareAdmitted _ _ _ _ _
        · exact fun error _ _ => raises error
  · exact fun error _ _ => raises error

/-- A delivery that no answer refuses does not end limited. -/
theorem unrefused_process :
    (unrefusedMonitor intOfText).Conforms
      (ResendInbound.process library settings intOfText event)
      (fun result _ => Unlimited result) () := by
  have raises (error : Exn) : Unlimited (.error error) :=
    fun _ raised => nomatch raised
  have failing (error : Exn) : (unrefusedMonitor intOfText).Conforms
      (ResendInbound.failEvent event error : IntakeProg ResendInboundResult)
      (fun result _ => Unlimited result) () := by
    apply unrefused_any.bind
    · exact fun _ _ _ => raises error
    · exact fun error _ _ => raises error
  apply unrefused_any.bind
  · intro claim _ _
    cases claim with
    | completed | processing =>
        rintro value same
        cases same
        simp [ResendInbound.outcome]
    | acquired =>
        apply unrefused_prepare.handle
        rintro (error | result | prepared) _ unlimited
        · exact failing error
        · rintro value same
          cases same
          exact unlimited result rfl
        · have ingested : (unrefusedMonitor intOfText).Conforms
              (ResendInbound.ingest library settings event prepared)
              (fun result _ => Unlimited result) () := by
            unfold ResendInbound.ingest
            split
            · exact raises _
            · apply unrefused_any.bind
              · intro ingestion _ _
                apply (unrefused_completeWith _).mono
                intro result _ same value returned
                rw [same value returned]
                simp [ResendInbound.outcome]
              · exact fun error _ _ => raises error
          have handled : (unrefusedMonitor intOfText).Conforms
              ((ResendInbound.ingest library settings event prepared).tryExcept
                (ResendInbound.failEvent event))
              (fun result _ => Unlimited result) () := by
            apply ingested.tryExcept
            · exact fun _ _ unlimited => unlimited
            · exact fun error _ _ => failing error
          apply handled.tryFinally
          intro result _ unlimited
          apply unrefused_any.mono
          intro final _ _
          cases final with
          | ok _ => exact unlimited
          | error error => exact raises error
  · exact fun error _ _ => raises error

end Unrefused

/-! ## Retries -/

section Retries

variable {library : MailFunctions} {settings : InboundSettings}
  {intOfText : String → Option Int} {start : IntakeWorld} {final : InboundState}
  {steps : List InboundStep} {step : InboundStep}

/-- What a delivery is answered does not refuse if no check is refused. -/
theorem notRefused_of_answer
    (run : (inboundPool library settings intOfText).Run start steps final)
    (member : step ∈ steps) {answer : InboundAnswer}
    (answered : (inboundPool library settings intOfText).answer? step =
      some answer)
    (unrefused : ∀ check, step.check? intOfText library settings = some check →
      check.emailId = answer.task.emailId → check.verdict ≠ some false) :
    answer.request.NotRefused intOfText answer.reply := by
  have checks := processes_of_answer run member answered
  have read := check?_of_answer answered
  obtain ⟨_, _, _, responded⟩ := PoolSystem.answer?_eq_some_iff.mp answered
  obtain ⟨thread, event, request, choice, reply, world, after⟩ := answer
  cases request with
  | limiter asked =>
      cases asked with
      | consume policy identifier units =>
          obtain ⟨outcome, rfl, _⟩ := IntakeWorld.respond_check responded
          exact unrefused _ read rfl
      | reserve policy identifier pathname ttlSeconds units observe =>
          exact checks.elim
  | event call | service call | review position call => trivial

/-- An email that has passed its first check is not dropped by later deliveries if
each further check finds room beside what was charged before. -/
theorem retries_spared_of_fit (library : MailFunctions) (settings : InboundSettings)
    (intOfText : String → Option Int) {start : IntakeWorld} {final : InboundState}
    {steps : List InboundStep}
    (fresh : ∀ operation identifier, start.quota operation identifier = {})
    (run : (inboundPool library settings intOfText).Run start steps final)
    (emailId : String)
    (fit : RetriesFit library settings intOfText emailId steps) :
    RetriesSpared library settings intOfText emailId steps := by
  rintro i ⟨⟨first, check, foundFirst, checkedFirst, ownFirst, passed⟩, initial⟩
    ⟨j, last, _, found, event, result, ended, own, limited, _⟩
  have unrefused (step : InboundStep) (member : step ∈ steps)
      (other : AdmissionCheck)
      (checked : step.check? intOfText library settings = some other)
      (own : other.emailId = emailId) : other.verdict ≠ some false := by
    obtain ⟨m, place⟩ := List.mem_iff_getElem?.mp member
    rcases Nat.lt_trichotomy m i with before | rfl | later
    · exact absurd ⟨other, checked, own⟩ (initial m step before place)
    · obtain rfl : first = step := by
        rw [foundFirst] at place
        exact Option.some.inj place
      rw [checkedFirst] at checked
      obtain rfl : check = other := Option.some.inj checked
      simp [passed]
    · cases answered : other.answered with
      | false =>
          obtain ⟨_, _, _, _, _, unread, _⟩ := check?_eq_some checked
          simp [unread answered]
      | true =>
          have fits := fit i m first step other later foundFirst
            ⟨check, checkedFirst, ownFirst⟩ place checked own answered
          simp [passes_of_fits fresh run place checked answered fits]
  have every := (PoolSystem.everyThread_of_run
    (fun (event : ResendWebhookEvent) program => event.emailId = emailId →
      (unrefusedMonitor intOfText).Conforms program
        (fun result _ => Unlimited result) ()) run
    (fun _ _ => unrefused_process)
    (by
      intro step member answer answered next conforms own
      apply (conforms own).2 answer.reply ()
      apply notRefused_of_answer run member answered
      intro check checked named
      exact unrefused step member check checked (named.trans own))).2 last
        (RunHistory.mem_of_getElem? found)
  obtain ⟨thread, _, stands⟩ := PoolSystem.ended?_eq_some_iff.mp ended
  exact every thread _ stands own result rfl limited

/-! ## An email and its retry -/

/-- From the claim to the admission of the email. -/
def admissionChoices (attachments : List ReceivedAttachment) : List IntakeChoice :=
  [.event none,
    .service (.getEmail "email-1") (.ok sampleEmail),
    .service (.listAttachments "email-1") (.ok attachments),
    .service (.getByEmail "user@mail.test") (.ok none),
    .limiter .answered]

/-- A transient failure after the admission. -/
def lostConnection : List IntakeChoice :=
  [.service (.resolveInboundSender "user@mail.test")
      (.error ⟨.databaseError, "connection lost"⟩),
    .event none]

def deliveryEvents (thread : Nat) (choices : List IntakeChoice) :
    List (PoolEvent ResendWebhookEvent IntakeChoice ClockTick) :=
  .start thread sampleWebhook :: choices.map (PoolEvent.call thread) ++
    [.stop thread]

/-- A delivery fails after its admission, and another one follows. -/
def retriedRun (attachments : List ReceivedAttachment)
    (outcome : List IntakeChoice) : Option (List InboundStep × InboundState) :=
  (inboundPool sampleMail sampleInboundSettings fun _ => none).extend []
    { world := sampleIntakeWorld }
    (deliveryEvents 0 (admissionChoices attachments ++ lostConnection) ++
      deliveryEvents 1 (admissionChoices attachments ++ outcome))

/-- An email with one attachment passes again. -/
theorem sparedRun_isSome :
    (retriedRun [sampleAttachment] lostConnection).isSome := by
  decide +kernel

def sparedSteps : List InboundStep :=
  ((retriedRun [sampleAttachment] lostConnection).get sparedRun_isSome).1

/-- Every check of the run finds room. -/
theorem sparedSteps_fit : ∀ j, j < sparedSteps.length →
    ((sparedSteps[j]?.bind
      (InboundStep.check? (fun _ => none) sampleMail sampleInboundSettings)).all
        fun check => decide (check.Fits (charges sampleMail sampleInboundSettings
          (fun _ => none) check.policy.operation check.identifier
          (sparedSteps.take j)))) = true := by
  decide +kernel

theorem sparedSteps_retriesFit :
    RetriesFit sampleMail sampleInboundSettings (fun _ => none) "email-1"
      sparedSteps := by
  intro i j first step check _ _ _ found checked _ _
  have fits := sparedSteps_fit j (RunHistory.lt_length_of_getElem? found)
  rw [found, Option.bind_some, checked] at fits
  simpa using fits

theorem sparedSteps_run :
    (inboundPool sampleMail sampleInboundSettings fun _ => none).Run
      sampleIntakeWorld sparedSteps
      ((retriedRun [sampleAttachment] lostConnection).get sparedRun_isSome).2 :=
  PoolSystem.run_of_extend .nil (Option.some_get sparedRun_isSome).symm

theorem retries_spared_of_fit_sample :
    RetriesSpared sampleMail sampleInboundSettings (fun _ => none) "email-1"
      sparedSteps :=
  retries_spared_of_fit sampleMail sampleInboundSettings (fun _ => none)
    (fun _ _ => rfl) sparedSteps_run "email-1" sparedSteps_retriesFit

/-- The only deliveries of the run are those of one email. -/
def OnlyTraffic (emailId : String) (steps : List InboundStep) : Prop :=
  ∀ step ∈ steps,
    match step.event with
    | .start _ event => event.emailId = emailId
    | _ => True

instance (emailId : String) (steps : List InboundStep) :
    Decidable (OnlyTraffic emailId steps) :=
  have (step : InboundStep) : Decidable (match step.event with
      | .start _ event => event.emailId = emailId
      | _ => True) := by
    split <;> infer_instance
  inferInstanceAs (Decidable (∀ step ∈ steps, _))

/-- An email with two attachments uses up its sender's hour at the first check. -/
theorem droppedRun_isSome :
    (retriedRun [sampleAttachment, sampleAttachment] [.event none]).isSome := by
  decide +kernel

def droppedSteps : List InboundStep :=
  ((retriedRun [sampleAttachment, sampleAttachment] [.event none]).get
    droppedRun_isSome).1

theorem droppedSteps_passes :
    PassesFirst sampleMail sampleInboundSettings (fun _ => none) "email-1"
      droppedSteps 5 := by
  constructor
  · have passes : (droppedSteps[5]?.any fun step =>
        (step.check? (fun _ => none) sampleMail sampleInboundSettings).any
          fun check => decide (check.emailId = "email-1" ∧
            check.verdict = some true)) = true := by
      decide +kernel
    obtain ⟨step, found, passes⟩ := Option.any_eq_true _ _ |>.mp passes
    obtain ⟨check, checked, passes⟩ := Option.any_eq_true _ _ |>.mp passes
    obtain ⟨own, passed⟩ := of_decide_eq_true passes
    exact ⟨step, check, found, checked, own, passed⟩
  · have initial : ∀ j, j < 5 → (droppedSteps[j]?.all fun step =>
        decide (¬ ChecksEmail sampleMail sampleInboundSettings (fun _ => none)
          "email-1" step)) = true := by
      decide +kernel
    intro j step before found
    have unchecked := initial j before
    rw [found] at unchecked
    exact of_decide_eq_true unchecked

/-- The retry of an email that had passed is refused, and the email is dropped. -/
theorem admitted_email_dropped :
    ¬ ∀ (library : MailFunctions) (settings : InboundSettings)
        (intOfText : String → Option Int) (start : IntakeWorld)
        (final : InboundState) (steps : List InboundStep) (emailId : String),
      settings.limiter = some ⟨.enforce, true⟩ →
      (∀ operation identifier, start.quota operation identifier = {}) →
      (inboundPool library settings intOfText).Run start steps final →
      OnlyTraffic emailId steps →
        RetriesSpared library settings intOfText emailId steps := by
  intro spared
  have dropped : (droppedSteps[16]?.any fun step =>
      decide (Drops "email-1" step)) = true := by
    decide +kernel
  obtain ⟨last, found, drops⟩ := Option.any_eq_true _ _ |>.mp dropped
  exact spared sampleMail sampleInboundSettings (fun _ => none) sampleIntakeWorld _
    droppedSteps "email-1" rfl (fun _ _ => rfl)
    (PoolSystem.run_of_extend .nil (Option.some_get droppedRun_isSome).symm)
    (by decide +kernel) 5 droppedSteps_passes
    ⟨16, last, by decide, found, of_decide_eq_true drops⟩

end Retries

end ContractMate
