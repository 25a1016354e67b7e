import ContractMate.ProgramPool
import ContractMate.SlackInstallations

/-!
# Delivery of Slack messages

A delivery attempt reads the installation of its message, posts with the token it read,
and on an authentication error revokes the installation by its identifier.  Attempts run
next to each other and next to whatever else changes installations and messages.
-/

namespace ContractMate

/-- The response of a `SlackApiError`. -/
structure SlackApiFailure where
  error : Option String := none
  statusCode : Option Int := none
  retryAfter : Option String := none
deriving DecidableEq, Repr

/-- What an attempt can meet. -/
inductive DeliveryError where
  | slackApi (failure : SlackApiFailure)
  | other (error : Exn)
deriving DecidableEq, Repr

namespace SlackApiFailure

/-- `str(exc.response.get("error", "slack_api_error"))`. -/
def errorCode (failure : SlackApiFailure) : String :=
  failure.error.getD "slack_api_error"

/-- `error_code in {"invalid_auth", "account_inactive", "token_revoked"}`. -/
def isAuthError (failure : SlackApiFailure) : Bool :=
  ["invalid_auth", "account_inactive", "token_revoked"].contains failure.errorCode

/-- `_retry_after`; `intOfText` is `int` of a text. -/
def retryAfterSeconds (intOfText : String → Option Int) (failure : SlackApiFailure) :
    Option Int :=
  if failure.statusCode = some 429 then
    some (((failure.retryAfter.bind intOfText).map fun wait => max wait 1).getD 1)
  else none

end SlackApiFailure

/-! ## An attempt -/

inductive SlackDeliveryCall where
  | getInstallation (installationId : String)
  | decrypt (encryptedBotToken : String)
  | chatPostMessage (token : String) (item : OutboundSlackItem)
  | markOutboundSent (outboxId leaseToken : Uuid)
  | markInstallationRevoked (installationId : String)
  | rescheduleOutbound (outboxId leaseToken : Uuid) (attempts maxAttempts : Int)
      (retryAfterSeconds : Option Int)

def SlackDeliveryCall.Ret : SlackDeliveryCall → Type
  | getInstallation _ => Option SlackInstallationRow
  | decrypt _ => String
  | chatPostMessage _ _ | markInstallationRevoked _ => Unit
  | markOutboundSent _ _ => Bool
  | rescheduleOutbound .. => RetryOutcome

abbrev SlackDeliveryProg := Prog SlackDeliveryCall SlackDeliveryCall.Ret DeliveryError

def readInstallation (installationId : String) :
    SlackDeliveryProg (Option SlackInstallationRow) :=
  Prog.perform (SlackDeliveryCall.getInstallation installationId)

def decryptToken (encryptedBotToken : String) : SlackDeliveryProg String :=
  Prog.perform (SlackDeliveryCall.decrypt encryptedBotToken)

def postMessage (token : String) (item : OutboundSlackItem) : SlackDeliveryProg Unit :=
  Prog.perform (SlackDeliveryCall.chatPostMessage token item)

def revokeInstallation (installationId : String) : SlackDeliveryProg Unit :=
  Prog.perform (SlackDeliveryCall.markInstallationRevoked installationId)

namespace OutboundSlackItem

variable (item : OutboundSlackItem)

def markSent : SlackDeliveryProg Bool :=
  Prog.perform (SlackDeliveryCall.markOutboundSent item.id item.leaseToken)

def rescheduling (maxAttempts : Int) (retryAfterSeconds : Option Int) :
    SlackDeliveryProg RetryOutcome :=
  Prog.perform (SlackDeliveryCall.rescheduleOutbound item.id item.leaseToken item.attempts
    maxAttempts retryAfterSeconds)

/-- `reschedule_outbound` of the item, and `return False`. -/
def reschedule (maxAttempts : Int) (retryAfterSeconds : Option Int) :
    SlackDeliveryProg Bool := do
  let _ ← item.rescheduling maxAttempts retryAfterSeconds
  pure false

/-- The body of the `try` block. -/
def post (installation : SlackInstallationRow) : SlackDeliveryProg Bool := do
  let token ← decryptToken installation.encryptedBotToken
  postMessage token item
  item.markSent

/-- The `except` clauses. -/
def recover (maxAttempts : Int) (intOfText : String → Option Int) :
    DeliveryError → SlackDeliveryProg Bool
  | .slackApi failure =>
      if failure.isAuthError then do
        revokeInstallation item.installationId
        item.reschedule item.attempts none
      else
        item.reschedule maxAttempts (failure.retryAfterSeconds intOfText)
  | .other _ => item.reschedule maxAttempts none

/-- `_deliver`. -/
def deliver (maxAttempts : Int) (intOfText : String → Option Int) :
    SlackDeliveryProg Bool := do
  let installation ← readInstallation item.installationId
  match installation with
  | none => item.reschedule item.attempts none
  | some installation =>
      Prog.tryExcept (item.post installation) (item.recover maxAttempts intOfText)

end OutboundSlackItem

/-! ## Attempts and installations -/

/-- How a call comes out.  A statement may have been committed although it raises. -/
inductive SlackDeliveryChoice where
  | proceed (stamp : Stamp)
  | committedRaising (stamp : Stamp) (error : DeliveryError)
  | raised (error : DeliveryError)
  | decrypted (token : String)

/-- A transaction of an attempt. -/
def respondTransaction {Value : Type} (tables : SlackTables)
    (body : Stamp → Value × SlackTables) :
    SlackDeliveryChoice → Option (Except DeliveryError Value × SlackTables)
  | .proceed stamp => some (.ok (body stamp).1, (body stamp).2)
  | .committedRaising stamp error => some (.error error, (body stamp).2)
  | .raised error => some (.error error, tables)
  | .decrypted _ => none

def SlackTables.respondDelivery :
    Prog.Respond SlackDeliveryCall SlackDeliveryCall.Ret DeliveryError SlackTables
      SlackDeliveryChoice :=
  fun choice tables request =>
    match request with
    | .getInstallation installationId =>
        respondTransaction tables
          (fun _ => (tables.getInstallation installationId, tables)) choice
    | .decrypt _ =>
        match choice with
        | .decrypted token => some (.ok token, tables)
        | .raised error => some (.error error, tables)
        | _ => none
    | .chatPostMessage _ _ => respondTransaction tables (fun _ => ((), tables)) choice
    | .markOutboundSent outboxId leaseToken =>
        respondTransaction tables
          (fun _ => tables.markOutboundSent outboxId leaseToken) choice
    | .markInstallationRevoked installationId =>
        respondTransaction tables
          (fun _ => ((), tables.markInstallationRevoked installationId)) choice
    | .rescheduleOutbound outboxId leaseToken attempts maxAttempts retryAfterSeconds =>
        respondTransaction tables
          (fun stamp => tables.rescheduleOutbound stamp outboxId leaseToken attempts
            maxAttempts retryAfterSeconds) choice

/-- A call of somebody else. -/
structure InstallationEvent where
  stamp : Stamp
  call : InstallationCall

/-- Delivery attempts, and what else happens to installations and messages. -/
def slackDeliveries (maxAttempts : Int) (intOfText : String → Option Int) :
    PoolSystem OutboundSlackItem SlackDeliveryCall SlackDeliveryCall.Ret DeliveryError Bool
      SlackTables SlackDeliveryChoice InstallationEvent where
  body := fun item => item.deliver maxAttempts intOfText
  respond := fun _ => SlackTables.respondDelivery
  outside := fun event tables => some (event.call.after event.stamp tables)

abbrev SlackDeliveryStep :=
  PoolStep OutboundSlackItem SlackDeliveryCall SlackDeliveryCall.Ret DeliveryError Bool
    SlackTables SlackDeliveryChoice InstallationEvent

abbrev SlackDeliveryState :=
  PoolState OutboundSlackItem SlackDeliveryCall SlackDeliveryCall.Ret DeliveryError Bool
    SlackTables

abbrev SlackDeliveryAnswer :=
  PoolAnswer OutboundSlackItem SlackDeliveryCall SlackDeliveryCall.Ret DeliveryError
    SlackTables SlackDeliveryChoice

/-! ## The authorization of an attempt -/

/-- What an attempt has read, and whether its team has installed again since. -/
structure DeliveryAttempt where
  installationId : String
  installation : SlackInstallationRow
  replaced : Bool := false

/-- A new installation of a team. -/
def InstallationEvent.installs (event : InstallationEvent) (teamId : String)
    (tables : SlackTables) : Bool :=
  match event.call with
  | .upsertInstallation drawn teamId' teamName botUserId encryptedBotToken accountId =>
      teamId' = teamId && (tables.upsertInstallation drawn teamId' teamName botUserId
        encryptedBotToken accountId).isOk
  | .repository _ => false

/-- An attempt that reads an installation goes on with what it has read. -/
def afterAnswer (attempt : Option DeliveryAttempt) :
    Option SlackDeliveryAnswer → Option DeliveryAttempt
  | some ⟨_, _, .getInstallation installationId, _, .ok (some installation), _, _⟩ =>
      some { installationId, installation }
  | _ => attempt

section Attempts

variable (maxAttempts : Int) (intOfText : String → Option Int)

/-- What a step means for the attempt of a thread. -/
def followAttempt (thread : Nat) (attempt : Option DeliveryAttempt)
    (step : SlackDeliveryStep) : Option DeliveryAttempt :=
  match step.event with
  | .start started _ => if started = thread then none else attempt
  | .call caller _ =>
      if caller = thread then
        afterAnswer attempt ((slackDeliveries maxAttempts intOfText).answer? step)
      else attempt
  | .stop _ => attempt
  | .outside event =>
      attempt.map fun attempt =>
        { attempt with
          replaced := attempt.replaced ||
            event.installs attempt.installation.teamId step.before.world }

/-- The attempt of a thread after some steps. -/
def attempt? (steps : List SlackDeliveryStep) (thread : Nat) : Option DeliveryAttempt :=
  steps.foldl (followAttempt maxAttempts intOfText thread) none

/-- The revocation that a step answers, with the installation it names. -/
def revocation? (step : SlackDeliveryStep) : Option (SlackDeliveryAnswer × String) :=
  match (slackDeliveries maxAttempts intOfText).answer? step with
  | some ⟨thread, item, .markInstallationRevoked installationId, choice, reply, before,
      after⟩ =>
      some (⟨thread, item, .markInstallationRevoked installationId, choice, reply, before,
        after⟩, installationId)
  | _ => none

/-- Handling an authentication error leaves an installation that is newer than the
attempt's as it is, and with it the messages that wait for it. -/
def SparesNewer (steps : List SlackDeliveryStep) : Prop :=
  ∀ i step answer installationId attempt, steps[i]? = some step →
    revocation? maxAttempts intOfText step = some (answer, installationId) →
    attempt? maxAttempts intOfText (steps.take i) answer.thread = some attempt →
    attempt.replaced = true →
    ∀ newer, answer.before.installations.find? installationId = some newer →
      newer.status = .active →
      answer.after.installations.find? installationId = some newer ∧
        ∀ id row, answer.before.outbound.find? id = some row →
          row.installationId = installationId → row.Live →
            answer.after.outbound.find? id = some row

/-- The revocation is carried out. -/
def SlackDeliveryChoice.commits : SlackDeliveryChoice → Bool
  | proceed _ | committedRaising _ _ => true
  | raised _ | decrypted _ => false

/-- No attempt revokes an active installation that has been renewed since the attempt
read it. -/
def RevokesOwn (steps : List SlackDeliveryStep) : Prop :=
  ∀ i step answer installationId attempt, steps[i]? = some step →
    revocation? maxAttempts intOfText step = some (answer, installationId) →
    attempt? maxAttempts intOfText (steps.take i) answer.thread = some attempt →
    answer.choice.commits = true →
    answer.before.installationActive installationId = true → attempt.replaced = false

end Attempts

/-! ## Phases of an attempt -/

/-- How far an attempt has come: it starts, it has read its installation, or its post
was refused for authentication. -/
inductive AttemptPhase where
  | starting (installationId : String)
  | using_ (installationId : String) (installation : SlackInstallationRow)
  | refused (installationId : String) (installation : SlackInstallationRow)

namespace AttemptPhase

/-- Only a refused attempt revokes, and only its own installation. -/
def permits : AttemptPhase → SlackDeliveryCall → Prop
  | starting installationId, .getInstallation asked => asked = installationId
  | refused installationId _, .markInstallationRevoked revoked => revoked = installationId
  | starting _, .markInstallationRevoked _ | using_ _ _, .markInstallationRevoked _ => False
  | _, _ => True

def next : AttemptPhase → (request : SlackDeliveryCall) →
    Except DeliveryError request.Ret → AttemptPhase
  | _, .getInstallation installationId, .ok (some installation) =>
      using_ installationId installation
  | using_ installationId installation, _, .error (.slackApi failure) =>
      if failure.isAuthError then refused installationId installation
      else using_ installationId installation
  | phase, _, _ => phase

/-- What the attempt has read. -/
def read? : AttemptPhase → Option (String × SlackInstallationRow)
  | starting _ => none
  | using_ installationId installation | refused installationId installation =>
      some (installationId, installation)

end AttemptPhase

abbrev attemptMonitor : Monitor SlackDeliveryCall SlackDeliveryCall.Ret DeliveryError :=
  .deterministic AttemptPhase.permits AttemptPhase.next

section Conformance

variable {maxAttempts : Int} {intOfText : String → Option Int}
  {phase : AttemptPhase} {installationId : String} {installation : SlackInstallationRow}

/-- Where an exception of the `try` block finds the attempt. -/
def AttemptPhase.raised (installationId : String) (installation : SlackInstallationRow) :
    DeliveryError → AttemptPhase
  | .slackApi failure =>
      if failure.isAuthError then refused installationId installation
      else using_ installationId installation
  | .other _ => using_ installationId installation

theorem conforms_reschedule (item : OutboundSlackItem) (limit : Int)
    (retryAfterSeconds : Option Int) :
    attemptMonitor.Conforms (item.reschedule limit retryAfterSeconds) (fun _ _ => True)
      phase := by
  refine ⟨?_, ?_⟩
  · cases phase <;> trivial
  · intro reply after _
    cases reply <;> trivial

theorem conforms_post (item : OutboundSlackItem) :
    attemptMonitor.Conforms (item.post installation)
      (fun result after => ∀ error, result = .error error →
        after = .raised installationId installation error)
      (.using_ installationId installation) := by
  have raising {Value : Type} (error : DeliveryError) (after : AttemptPhase)
      (same : after = .raised installationId installation error)
      (final : DeliveryError) (raised : (.error error : Except DeliveryError Value) =
        .error final) : after = .raised installationId installation final := by
    cases raised
    exact same
  refine ⟨trivial, ?_⟩
  rintro reply after rfl
  cases reply with
  | error error => exact raising error _ (by cases error <;> rfl)
  | ok token =>
      refine ⟨trivial, ?_⟩
      rintro reply after rfl
      cases reply with
      | error error => exact raising error _ (by cases error <;> rfl)
      | ok posted =>
          refine ⟨trivial, ?_⟩
          rintro reply after rfl
          cases reply with
          | error error => exact raising error _ (by cases error <;> rfl)
          | ok marked => exact nofun

theorem conforms_recover (item : OutboundSlackItem) (error : DeliveryError) :
    attemptMonitor.Conforms (item.recover maxAttempts intOfText error) (fun _ _ => True)
      (.raised item.installationId installation error) := by
  cases error with
  | other error => exact conforms_reschedule item _ _
  | slackApi failure =>
      simp only [OutboundSlackItem.recover, AttemptPhase.raised]
      split_ifs with auth
      · refine ⟨rfl, ?_⟩
        intro reply after _
        cases reply with
        | error error => trivial
        | ok revoked => exact conforms_reschedule item _ _
      · exact conforms_reschedule item _ _

/-- An attempt keeps to its phases. -/
theorem conforms_deliver (item : OutboundSlackItem) :
    attemptMonitor.Conforms (item.deliver maxAttempts intOfText) (fun _ _ => True)
      (.starting item.installationId) := by
  refine ⟨rfl, ?_⟩
  rintro reply after rfl
  cases reply with
  | error error => trivial
  | ok found =>
      cases found with
      | none => exact conforms_reschedule item _ _
      | some installation =>
          have posted := @conforms_post item.installationId installation item
          apply posted.tryExcept
          · exact fun _ _ _ => trivial
          · intro error after raised
            rw [raised error rfl]
            exact conforms_recover item error

end Conformance

/-! ## Runs -/

section Runs

variable (maxAttempts : Int) (intOfText : String → Option Int)
  {steps : List SlackDeliveryStep} {step : SlackDeliveryStep}
  {answer : SlackDeliveryAnswer} {installationId : String}

theorem revocation?_eq_some
    (found : revocation? maxAttempts intOfText step = some (answer, installationId)) :
    (slackDeliveries maxAttempts intOfText).answer? step = some answer ∧
      answer.request = .markInstallationRevoked installationId := by
  unfold revocation? at found
  split at found
  · rename_i answered
    cases found
    exact ⟨answered, rfl⟩
  · cases found

/-- What a revocation does, if it is carried out. -/
theorem revocation_after
    (found : revocation? maxAttempts intOfText step = some (answer, installationId)) :
    answer.after = if answer.choice.commits then
      answer.before.markInstallationRevoked installationId else answer.before := by
  obtain ⟨answered, asked⟩ := revocation?_eq_some maxAttempts intOfText found
  obtain ⟨_, _, same, responds⟩ := PoolSystem.answer?_eq_some_iff.mp answered
  obtain ⟨thread, item, request, choice, reply, before, after⟩ := answer
  obtain rfl : request = .markInstallationRevoked installationId := asked
  obtain rfl : before = step.before.world := same
  have responds : respondTransaction step.before.world
      (fun _ => ((), step.before.world.markInstallationRevoked installationId)) choice =
        some (reply, after) := responds
  cases choice with
  | proceed stamp | committedRaising stamp error | raised error =>
      cases responds
      rfl
  | decrypted token => cases responds

/-- An answer tells the attempt and its phase the same. -/
theorem read_of_answer {attempt : Option DeliveryAttempt} {phase : AttemptPhase}
    (same : attempt.map (fun attempt => (attempt.installationId, attempt.installation)) =
      phase.read?) :
    (afterAnswer attempt (some answer)).map
        (fun attempt => (attempt.installationId, attempt.installation)) =
      (phase.next answer.request answer.reply).read? := by
  obtain ⟨thread, item, request, choice, reply, before, after⟩ := answer
  have failed (error : DeliveryError) :
      (phase.next request (.error error)).read? = phase.read? := by
    cases phase <;> cases error <;> cases request <;>
      simp only [AttemptPhase.next, AttemptPhase.read?] <;> split_ifs <;> rfl
  cases reply with
  | error error =>
      cases request <;> exact same.trans (failed error).symm
  | ok value =>
      cases request with
      | getInstallation asked =>
          cases (value : Option SlackInstallationRow) with
          | none => cases phase <;> exact same
          | some installation => cases phase <;> rfl
      | _ => cases phase <;> exact same

/-- The attempt has read what its phase says. -/
theorem attempt_of_tracked {thread : Nat} {phase : AttemptPhase}
    (tracked : (slackDeliveries maxAttempts intOfText).tracked
      (fun item => .starting item.installationId) AttemptPhase.next thread steps =
        some phase) :
    (attempt? maxAttempts intOfText steps thread).map
        (fun attempt => (attempt.installationId, attempt.installation)) = phase.read? := by
  induction steps using List.reverseRecOn generalizing phase with
  | nil => cases tracked
  | append_singleton steps step induction =>
      rw [PoolSystem.tracked_concat] at tracked
      rw [attempt?, List.foldl_append]
      change (followAttempt maxAttempts intOfText thread
        (attempt? maxAttempts intOfText steps thread) step).map _ = _
      unfold PoolSystem.track at tracked
      unfold followAttempt
      obtain ⟨event, before⟩ := step
      cases event with
      | start started item =>
          dsimp only at tracked ⊢
          split_ifs at tracked ⊢
          · cases tracked
            rfl
          · exact induction tracked
      | stop stopped => exact induction tracked
      | outside event =>
          rw [← induction tracked]
          simp [Function.comp_def]
      | call caller choice =>
          dsimp only at tracked ⊢
          split_ifs at tracked ⊢ with own
          · cases answered : (slackDeliveries maxAttempts intOfText).answer?
              ⟨.call caller choice, before⟩ with
            | none =>
                rw [answered] at tracked
                exact induction tracked
            | some answer =>
                rw [answered] at tracked
                obtain ⟨old, was, rfl⟩ := Option.map_eq_some_iff.mp tracked
                exact read_of_answer (induction was)
          · exact induction tracked

/-- Whoever revokes an installation has read it. -/
theorem attempt_of_revocation {final : SlackDeliveryState} {i : Nat}
    (run : (slackDeliveries maxAttempts intOfText).Run default steps final)
    (found : steps[i]? = some step)
    (revokes : revocation? maxAttempts intOfText step = some (answer, installationId)) :
    ∃ attempt, attempt? maxAttempts intOfText (steps.take i) answer.thread = some attempt ∧
      attempt.installationId = installationId := by
  obtain ⟨answered, asked⟩ := revocation?_eq_some maxAttempts intOfText revokes
  obtain ⟨_, ⟨rest, stands⟩, _⟩ := PoolSystem.answer?_eq_some_iff.mp answered
  have conforms (item : OutboundSlackItem) :
      attemptMonitor.Conforms (item.deliver maxAttempts intOfText) (fun _ _ => True)
        (.starting item.installationId) :=
    conforms_deliver item
  obtain ⟨phase, tracked, permitted, _⟩ :=
    PoolSystem.conforms_of_run conforms (run.take found) stands
  have read := attempt_of_tracked maxAttempts intOfText tracked
  rw [asked] at permitted
  cases phase with
  | starting => exact permitted.elim
  | using_ => exact permitted.elim
  | refused own installation =>
      obtain ⟨attempt, known, same⟩ := Option.map_eq_some_iff.mp read
      cases same
      exact ⟨attempt, known, permitted.symm⟩

/-- A carried out revocation does not spare an active installation. -/
theorem not_spared {newer : SlackInstallationRow}
    (revokes : revocation? maxAttempts intOfText step = some (answer, installationId))
    (commits : answer.choice.commits = true)
    (found : answer.before.installations.find? installationId = some newer)
    (active : newer.status = .active) :
    answer.after.installations.find? installationId ≠ some newer := by
  have named := RowTable.key_of_find? found
  rw [revocation_after maxAttempts intOfText revokes, if_pos commits]
  simp only [SlackTables.markInstallationRevoked, RowTable.find?_updateWhere, found,
    Option.map_some, named, decide_true, if_true]
  intro same
  rw [← Option.some.inj same] at active
  cases active

end Runs

/-- In every run, who revokes an installation has read it, and newer installations are
spared exactly if no attempt revokes one. -/
theorem newer_spared_iff (maxAttempts : Int) (intOfText : String → Option Int)
    {steps : List SlackDeliveryStep} {final : SlackDeliveryState}
    (run : (slackDeliveries maxAttempts intOfText).Run default steps final) :
    (∀ i step answer installationId, steps[i]? = some step →
      revocation? maxAttempts intOfText step = some (answer, installationId) →
      ∃ attempt,
        attempt? maxAttempts intOfText (steps.take i) answer.thread = some attempt ∧
          attempt.installationId = installationId) ∧
    (SparesNewer maxAttempts intOfText steps ↔
      RevokesOwn maxAttempts intOfText steps) := by
  refine ⟨fun i step answer installationId found revokes =>
    attempt_of_revocation maxAttempts intOfText run found revokes, ?_, ?_⟩
  · intro spares i step answer installationId attempt found revokes known commits active
    obtain ⟨newer, stored, status⟩ := Option.any_eq_true _ _ |>.mp active
    have status := of_decide_eq_true status
    cases replaced : attempt.replaced with
    | false => rfl
    | true =>
        have spared := (spares i step answer installationId attempt found revokes known
          replaced newer stored status).1
        exact absurd spared (not_spared maxAttempts intOfText revokes commits stored status)
  · intro own i step answer installationId attempt found revokes known replaced newer
      stored status
    cases commits : answer.choice.commits with
    | true =>
        have active : answer.before.installationActive installationId = true := by
          simp [SlackTables.installationActive, stored, status]
        rw [own i step answer installationId attempt found revokes known commits active]
          at replaced
        cases replaced
    | false =>
        rw [revocation_after maxAttempts intOfText revokes, commits]
        exact ⟨stored, fun _ _ found _ _ => found⟩

/-! ## A token that is replaced during a post -/

/-- The team's calls. -/
def teamCall (count : Nat) (call : InstallationCall) :
    PoolEvent OutboundSlackItem SlackDeliveryChoice InstallationEvent :=
  .outside ⟨⟨count, count⟩, call⟩

def queuedMessage : OutboundSlackIntent where
  workspaceId := "inbox"
  installationId := "installation"
  channelId := "channel"
  threadTs := "1.0"
  messageType := .receipt
  textBody := "text"
  idempotencyKey := .receipt "event:file"

/-- The claimed item. -/
def claimedMessage : OutboundSlackItem where
  id := ⟨1, 0⟩
  installationId := "installation"
  channelId := "channel"
  threadTs := "1.0"
  messageType := .receipt
  textBody := "text"
  blocks := none
  attempts := 1
  leaseToken := ⟨2, 0⟩

def revokedToken : DeliveryError :=
  .slackApi { error := some "token_revoked" }

/-- An attempt reads the token and posts; the team may install again before the
authentication error arrives. -/
def revokingEvents (reinstalls : List InstallationCall) :
    List (PoolEvent OutboundSlackItem SlackDeliveryChoice InstallationEvent) :=
  [teamCall 0 (.upsertInstallation "installation" "team" none none "token" "account"),
    teamCall 1 (.repository (.enqueueOutbound queuedMessage)),
    teamCall 2 (.repository (.claimDueOutbound 25 120)),
    .start 0 claimedMessage,
    .call 0 (.proceed ⟨3, 3⟩),
    .call 0 (.decrypted "xoxb")] ++
  reinstalls.map (teamCall 4) ++
  [.call 0 (.raised revokedToken),
    .call 0 (.proceed ⟨5, 5⟩)]

def revokingRun (reinstalls : List InstallationCall) :
    Option (List SlackDeliveryStep × SlackDeliveryState) :=
  (slackDeliveries 5 fun _ => none).extend [] { world := default }
    (revokingEvents reinstalls)

/-- Disconnected and installed again. -/
def renewal : List InstallationCall :=
  [.repository (.disconnectInstallation "installation" "account"),
    .upsertInstallation "unused" "team" none none "newer" "account"]

theorem revokingRun_isSome : (revokingRun []).isSome := by
  decide

theorem renewedRun_isSome : (revokingRun renewal).isSome := by
  decide

/-- Without a new installation, the attempt revokes its own. -/
theorem newer_spared_iff_sample :
    ∃ steps final, (slackDeliveries 5 fun _ => none).Run default steps final ∧
      (SparesNewer 5 (fun _ => none) steps ↔ RevokesOwn 5 (fun _ => none) steps) := by
  have run : (slackDeliveries 5 fun _ => none).Run default _ _ :=
    PoolSystem.run_of_extend .nil (Option.some_get revokingRun_isSome).symm
  exact ⟨_, _, run, (newer_spared_iff 5 (fun _ => none) run).2⟩

/-- The steps of the run in which the team installs again. -/
def renewedSteps : List SlackDeliveryStep :=
  ((revokingRun renewal).get renewedRun_isSome).1

/-- The revocation at the end of the run names an active installation that has been
renewed. -/
theorem renewedSteps_revokes :
    renewedSteps[9]?.any (fun step =>
      (revocation? 5 (fun _ => none) step).any fun revoked =>
        revoked.1.choice.commits &&
          (revoked.1.before.installations.find? revoked.2).any (·.status = .active) &&
          (attempt? 5 (fun _ => none) (renewedSteps.take 9) revoked.1.thread).any
            (·.replaced)) = true := by
  decide

/-- The token that was refused is not the token that is revoked. -/
theorem renewed_installation_revoked :
    ¬ ∀ (maxAttempts : Int) (intOfText : String → Option Int)
        (steps : List SlackDeliveryStep) (final : SlackDeliveryState),
      (slackDeliveries maxAttempts intOfText).Run default steps final →
        SparesNewer maxAttempts intOfText steps := by
  intro spares
  have run : (slackDeliveries 5 fun _ => none).Run default renewedSteps _ :=
    PoolSystem.run_of_extend .nil (Option.some_get renewedRun_isSome).symm
  obtain ⟨step, found, revokes⟩ := Option.any_eq_true _ _ |>.mp renewedSteps_revokes
  obtain ⟨⟨answer, installationId⟩, revokes, facts⟩ := Option.any_eq_true _ _ |>.mp revokes
  simp only [Bool.and_eq_true] at facts
  obtain ⟨⟨commits, active⟩, renewed⟩ := facts
  obtain ⟨newer, stored, status⟩ := Option.any_eq_true _ _ |>.mp active
  obtain ⟨attempt, known, replaced⟩ := Option.any_eq_true _ _ |>.mp renewed
  have status := of_decide_eq_true status
  have spared := (spares 5 _ _ _ run 9 step answer installationId attempt found revokes
    known replaced newer stored status).1
  exact not_spared 5 _ revokes commits stored status spared

end ContractMate
