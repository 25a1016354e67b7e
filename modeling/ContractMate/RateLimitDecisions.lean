import ContractMate.ReviewJobs
import ContractMate.UploadReservations

/-!
# Rate-limit decisions

The policies of the rate limiter and how its client turns what Redis answers into
the decision on which its callers branch.
-/

namespace ContractMate

/-- `RateLimitMode`. -/
inductive RateLimitMode where
  | observe
  | enforce
deriving DecidableEq, Repr

/-- `[a-z0-9]`. -/
def isLowerAlphanumeric (character : Char) : Bool :=
  character.isLower || character.isDigit

/-- `_OPERATION_PATTERN`. -/
def matchesOperationPattern (operation : String) : Bool :=
  match operation.toList with
  | [] => false
  | first :: rest =>
      isLowerAlphanumeric first && rest.length ≤ 63 &&
        rest.all fun character =>
          isLowerAlphanumeric character || [':', '_', '-'].contains character

/-- `RateLimitPolicy`, with the checks of `__post_init__`. -/
structure RateLimitPolicy where
  operation : String
  named : matchesOperationPattern operation
  minuteLimit : Option Nat := none
  hourlyLimit : Option Nat := none
  dailyLimit : Option Nat := none
  windowed : minuteLimit ≠ none ∨ hourlyLimit ≠ none ∨ dailyLimit ≠ none
  positive : minuteLimit ≠ some 0 ∧ hourlyLimit ≠ some 0 ∧ dailyLimit ≠ some 0
deriving DecidableEq

/-- `default_rate_limit_policy("review")`. -/
def reviewPolicy : RateLimitPolicy where
  operation := "review"
  named := by decide
  hourlyLimit := some 5
  dailyLimit := some 20
  windowed := by decide
  positive := by decide

/-- `minute_limit or 0` and so on. -/
def RateLimitPolicy.limits (policy : RateLimitPolicy) : WindowLimits where
  minute := policy.minuteLimit.getD 0
  hourly := policy.hourlyLimit.getD 0
  daily := policy.dailyLimit.getD 0

/-- `RateLimitDecision.reason`. -/
inductive DecisionReason where
  | disabled
  | allowed
  | limited
  | unavailable
deriving DecidableEq, Repr

/-- `RateLimitDecision`. -/
structure RateLimitDecision where
  allowed : Bool
  observedAllowed : Option Bool
  mode : RateLimitMode
  configured : Bool
  minuteRemaining : Option Int := none
  hourlyRemaining : Option Int := none
  dailyRemaining : Option Int := none
  retryAfterSeconds : Option Int := none
  reason : DecisionReason := .disabled
deriving DecidableEq, Repr

/-- The settings of an `UpstashRateLimiter`. -/
structure LimiterSettings where
  mode : RateLimitMode
  configured : Bool
deriving DecidableEq, Repr

/-! ## Reading a reply -/

/-- A number with a fraction, as `json` reads it. -/
inductive JsonFloat where
  | finite (value : ℚ)
  | infinite
  | nan
deriving DecidableEq

/-- What `response.json()` returns. -/
inductive Json where
  | null
  | bool (value : Bool)
  | int (value : Int)
  | float (value : JsonFloat)
  | text (value : String)
  | list (items : List Json)
  | object (fields : List (String × Json))

/-- What comes of the request: an `httpx.HTTPError`, a body that is no JSON, or a
body. -/
inductive HttpReply where
  | failed
  | undecodable
  | decoded (body : Json)

/-- What reading a reply can raise. -/
inductive ReplyError where
  | httpError
  | typeError
  | valueError
  | overflowError
  | attributeError
deriving DecidableEq, Repr

namespace ReplyError

/-- `except (httpx.HTTPError, TypeError, ValueError, KeyError)`. -/
def caught : ReplyError → Bool
  | httpError | typeError | valueError => true
  | overflowError | attributeError => false

def raised (error : ReplyError) : Exn :=
  match error with
  | httpError => ⟨.httpError, "HTTPError"⟩
  | typeError => ⟨.otherError, "TypeError"⟩
  | valueError => ⟨.valueError, "ValueError"⟩
  | overflowError => ⟨.otherError, "OverflowError"⟩
  | attributeError => ⟨.otherError, "AttributeError"⟩

end ReplyError

/-- A fraction is cut off. -/
def truncate (value : ℚ) : Int :=
  if 0 ≤ value then ⌊value⌋ else ⌈value⌉

section Reading

-- `int` of a text
variable (intOfText : String → Option Int)

/-- `int(value)`. -/
def Json.toInt : Json → Except ReplyError Int
  | bool value => .ok (if value then 1 else 0)
  | int value => .ok value
  | float (.finite value) => .ok (truncate value)
  | float .infinite => .error .overflowError
  | float .nan => .error .valueError
  | text value =>
      match intOfText value with
      | some number => .ok number
      | none => .error .valueError
  | null | list _ | object _ => .error .typeError

/-- What `_parse_result` returns. -/
structure ParsedResult where
  allowed : Bool
  minuteRemaining : Option Int
  hourlyRemaining : Option Int
  dailyRemaining : Option Int
  minuteRetry : Int
  hourlyRetry : Int
  dailyRetry : Int
deriving DecidableEq, Repr

/-- `optional_remaining`. -/
def optionalRemaining (value : Json) : Except ReplyError (Option Int) := do
  let parsed ← value.toInt intOfText
  pure (if parsed < 0 then none else some parsed)

/-- `_parse_result`. -/
def parseResult (result : List Json) : Except ReplyError ParsedResult :=
  match result with
  | [rawAllowed, rawMinute, rawHourly, rawDaily, rawMinuteRetry, rawHourlyRetry,
      rawDailyRetry] => do
      let allowed ← rawAllowed.toInt intOfText
      let minuteRemaining ← optionalRemaining intOfText rawMinute
      let hourlyRemaining ← optionalRemaining intOfText rawHourly
      let dailyRemaining ← optionalRemaining intOfText rawDaily
      let minuteRetry ← rawMinuteRetry.toInt intOfText
      let hourlyRetry ← rawHourlyRetry.toInt intOfText
      let dailyRetry ← rawDailyRetry.toInt intOfText
      pure {
        allowed := allowed ≠ 0
        minuteRemaining, hourlyRemaining, dailyRemaining
        minuteRetry := max 0 minuteRetry
        hourlyRetry := max 0 hourlyRetry
        dailyRetry := max 0 dailyRetry }
  | _ => .error .valueError

/-- `response.json().get("result")`, as the list that the parsers require. -/
def resultList : HttpReply → Except ReplyError (List Json)
  | .failed => .error .httpError
  | .undecodable => .error .valueError
  | .decoded (.object fields) =>
      match fields.lookup "result" with
      | some (.list items) => .ok items
      | _ => .error .valueError
  | .decoded _ => .error .attributeError

/-- The reply of the consuming script. -/
def readConsumed (reply : HttpReply) : Except ReplyError ParsedResult := do
  let result ← resultList reply
  parseResult intOfText result

/-- `_parse_reservation_result`. -/
def readReserved (reply : HttpReply) :
    Except ReplyError (Int × ParsedResult) := do
  let result ← resultList reply
  match result with
  | action :: decisionValues =>
      if decisionValues.length ≠ 7 then .error .valueError
      else
        let parsed ← parseResult intOfText decisionValues
        let action ← action.toInt intOfText
        pure (action, parsed)
  | [] => .error .valueError

/-! ## Deciding -/

variable (settings : LimiterSettings)

/-- The decision of a limiter that is not configured. -/
def disabledDecision : RateLimitDecision where
  allowed := true
  observedAllowed := some true
  mode := settings.mode
  configured := false

/-- `_unavailable_decision`. -/
def unavailableDecision : RateLimitDecision where
  allowed := settings.mode = .observe
  observedAllowed := none
  mode := settings.mode
  configured := true
  retryAfterSeconds := some 5
  reason := .unavailable

/-- `_decision_from_result`; a wait of no seconds is none. -/
def decisionFromResult (parsed : ParsedResult) : RateLimitDecision where
  allowed := parsed.allowed || settings.mode = .observe
  observedAllowed := some parsed.allowed
  mode := settings.mode
  configured := true
  minuteRemaining := parsed.minuteRemaining
  hourlyRemaining := parsed.hourlyRemaining
  dailyRemaining := parsed.dailyRemaining
  retryAfterSeconds :=
    let seconds := max parsed.minuteRetry (max parsed.hourlyRetry parsed.dailyRetry)
    if seconds = 0 then none else some seconds
  reason := if parsed.allowed then .allowed else .limited

/-- The decision on a path that is reserved already. -/
def reservedDecision : RateLimitDecision where
  allowed := true
  observedAllowed := some true
  mode := settings.mode
  configured := true
  reason := .allowed

/-- The `try` around the request: what is caught makes the limiter unavailable. -/
def decideOn {Parsed : Type} (read : Except ReplyError Parsed)
    (decide : Parsed → RateLimitDecision) : Except Exn RateLimitDecision :=
  match read with
  | .ok parsed => .ok (decide parsed)
  | .error error =>
      if error.caught then .ok (unavailableDecision settings)
      else .error error.raised

/-- `consume` after its request. -/
def consumeDecision (reply : HttpReply) : Except Exn RateLimitDecision :=
  decideOn settings (readConsumed intOfText reply) (decisionFromResult settings)

/-- `reserve_upload` after its request. -/
def reserveDecision (reply : HttpReply) : Except Exn RateLimitDecision :=
  decideOn settings (readReserved intOfText reply) fun parsed =>
    if parsed.1 = 2 then reservedDecision settings
    else decisionFromResult settings parsed.2

/-- What a reading raises. -/
def raisedBy {Parsed : Type} : Except ReplyError Parsed → Option ReplyError
  | .ok _ => none
  | .error error => some error

variable {settings} {Parsed : Type} {read : Except ReplyError Parsed}
  {decide : Parsed → RateLimitDecision} {error : ReplyError}

omit intOfText

theorem raisedBy_eq_some_iff : raisedBy read = some error ↔ read = .error error := by
  cases read <;> simp [raisedBy]

/-- An exception that the client catches makes the limiter unavailable. -/
theorem decideOn_of_caught (raised : raisedBy read = some error)
    (caught : error.caught = true) :
    decideOn settings read decide = .ok (unavailableDecision settings) := by
  rw [raisedBy_eq_some_iff.mp raised, decideOn, if_pos caught]

theorem decideOn_of_not_caught (raised : raisedBy read = some error)
    (uncaught : error.caught = false) :
    decideOn settings read decide = .error error.raised := by
  rw [raisedBy_eq_some_iff.mp raised, decideOn, if_neg (by simp [uncaught])]

end Reading

end ContractMate
