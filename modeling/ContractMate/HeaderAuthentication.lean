import ContractMate.RateLimitDecisions

/-!
# Authentication by headers

The security key and the bearer token of the control plane, the password of the web
application, and the signature of Slack's requests.  Each verifier decodes and compares
what it is given step by step, and not every exception of these steps is caught.
-/

namespace ContractMate

namespace HeaderAuthentication

open PythonText

abbrev Bytes := List UInt8

/-- What the steps can raise. -/
inductive AuthError where
  | typeError
  | valueError
  | binasciiError
  | unicodeDecodeError
  | unicodeEncodeError
  | jsonDecodeError
  | overflowError
  | recursionError
  | invalidSlackSignature (message : String)
deriving DecidableEq, Repr

/-- The subclasses of `ValueError`. -/
def AuthError.isValueError : AuthError → Bool
  | valueError | binasciiError | unicodeDecodeError | unicodeEncodeError | jsonDecodeError
  | invalidSlackSignature _ => true
  | typeError | overflowError | recursionError => false

/-! ## Steps -/

/-- What the verifiers take from the standard library: case folding, HMAC-SHA256 of a key
and a message, reading JSON from bytes, `int` of a text, and `str` of a JSON value. -/
structure AuthLibrary where
  casefold : Text → Text
  hmacSha256 : Bytes → Bytes → Bytes
  loads : Bytes → Except AuthError Json
  intOfText : String → Option Int
  str : Json → Text

/-- An optional text that counts as true. -/
def given (text : Option Text) : Option Text :=
  text.filter (· ≠ [])

def isAscii (text : Text) : Bool :=
  text.all (·.val < 128)

/-- `text.encode("ascii")`. -/
def encodeAscii (text : Text) : Except AuthError Bytes :=
  if isAscii text then .ok (text.map fun character => UInt8.ofNat character.toNat)
  else .error .unicodeEncodeError

/-- `text.encode("utf-8")`. -/
def encodeUtf8 (text : Text) : Bytes :=
  (String.ofList text).toUTF8.toList

/-- `data.decode("utf-8")`. -/
def decodeUtf8 (bytes : Bytes) : Except AuthError Text :=
  match String.fromUTF8? ⟨bytes.toArray⟩ with
  | some text => .ok text.toList
  | none => .error .unicodeDecodeError

/-- `hmac.compare_digest` of two texts. -/
def compareDigest (first second : Text) : Except AuthError Bool :=
  if isAscii first && isAscii second then .ok (first = second) else .error .typeError

/-- `text.partition(separator)`, if the separator is there. -/
def partitionAt? (separator : Char) (text : Text) : Option (Text × Text) :=
  if separator ∈ text then
    some (text.takeWhile (· ≠ separator), (text.dropWhile (· ≠ separator)).drop 1)
  else none

/-! ## Base64 -/

def base64Alphabet : Text :=
  "ABCDEFGHIJKLMNOPQRSTUVWXYZabcdefghijklmnopqrstuvwxyz0123456789+/".toList

/-- `binascii.a2b_base64` behind `quad` digits of a group, the last of which leaves `left`
over, and `pads` signs of padding. -/
def a2bBase64From (strict : Bool) (quad left pads : Nat) (padded : Bool) :
    Text → Option Bytes
  | [] => if quad = 0 then some [] else none
  | character :: text =>
      if character = '=' then
        if 2 ≤ quad ∧ 4 ≤ quad + (pads + 1) then
          if strict && text ≠ [] then none else some []
        else a2bBase64From strict quad left (if 2 ≤ quad then pads + 1 else pads) true text
      else
        let digit := base64Alphabet.idxOf character
        if 64 ≤ digit then
          if strict then none else a2bBase64From strict quad left pads padded text
        else if strict && padded then none
        else
          match quad with
          | 0 => a2bBase64From strict 1 digit 0 padded text
          | 1 => (a2bBase64From strict 2 (digit % 16) 0 padded text).map
              (UInt8.ofNat (left * 4 + digit / 16) :: ·)
          | 2 => (a2bBase64From strict 3 (digit % 4) 0 padded text).map
              (UInt8.ofNat (left * 16 + digit / 4) :: ·)
          | _ => (a2bBase64From strict 0 0 0 padded text).map
              (UInt8.ofNat (left * 64 + digit) :: ·)

/-- `binascii.a2b_base64`. -/
def a2bBase64 (strict : Bool) (text : Text) : Option Bytes :=
  if strict && text.head? = some '=' then none
  else a2bBase64From strict 0 0 0 false text

/-- `base64.b64decode`. -/
def b64decode (validate : Bool) (text : Text) : Except AuthError Bytes :=
  if isAscii text then
    match a2bBase64 validate text with
    | some bytes => .ok bytes
    | none => .error .binasciiError
  else .error .valueError

/-- `base64.urlsafe_b64decode`. -/
def urlsafeB64decode (text : Text) : Except AuthError Bytes :=
  b64decode false (text.map fun character =>
    if character = '-' then '+' else if character = '_' then '/' else character)

/-! ## The control plane -/

/-- The settings that the verifiers read. -/
structure AuthSettings where
  osSecurityKey : Option Text := none
  jwtVerificationKey : Option Text := none
  isProduction : Bool := false
  appAccessUsername : Text := []
  appAccessPassword : Option Text := none

/-- `ControlPlanePrincipal`. -/
structure ControlPlanePrincipal where
  subject : Text
  scopes : List Text
  authMethod : String
deriving DecidableEq, Repr

def ControlPlanePrincipal.hasScope (principal : ControlPlanePrincipal) (scope : Text) : Bool :=
  principal.scopes.contains scope

/-- The scopes of a principal without a token. -/
def allScopes : List Text :=
  ["runtime:read".toList, "traces:read".toList, "sessions:read".toList,
    "approvals:write".toList]

def osPrincipal : ControlPlanePrincipal where
  subject := "os-security-key".toList
  scopes := allScopes
  authMethod := "os-security-key"

def localDeveloper : ControlPlanePrincipal where
  subject := "local-developer".toList
  scopes := allScopes
  authMethod := "local-dev"

/-- The fields of a decoded object. -/
abbrev Claims := List (String × Json)

/-- Whether a value counts as true. -/
def isTruthy : Json → Bool
  | .null => false
  | .bool value => value
  | .int value => value ≠ 0
  | .float (.finite value) => value ≠ 0
  | .float _ => true
  | .text value => value ≠ ""
  | .list items => !items.isEmpty
  | .object fields => !fields.isEmpty

/-- `alg` is `"HS256"`. -/
def isHs256 (header : Claims) : Bool :=
  match header.lookup "alg" with
  | some (.text algorithm) => algorithm = "HS256"
  | _ => false

section Verifiers

variable (library : AuthLibrary) (settings : AuthSettings)

/-- `_authorize_security_key`. -/
def authorizeSecurityKey (osSecurityKeyHeader : Option Text) :
    Except AuthError (Option ControlPlanePrincipal) :=
  match given settings.osSecurityKey, given osSecurityKeyHeader with
  | some key, some header =>
      match compareDigest key header with
      | .error error => .error error
      | .ok same => .ok (if same then some osPrincipal else none)
  | _, _ => .ok none

/-- `_decode_segment`. -/
def decodeSegment (segment : Text) : Except AuthError Bytes :=
  urlsafeB64decode (segment ++ List.replicate ((4 - segment.length % 4) % 4) '=')

/-- `_decode_json_segment`. -/
def decodeJsonSegment (segment : Text) : Except AuthError Claims :=
  match decodeSegment segment with
  | .error error => .error error
  | .ok decoded =>
      match library.loads decoded with
      | .error error => .error error
      | .ok (.object fields) => .ok fields
      | .ok _ => .error .valueError

/-- The header and the payload of a token, decoded one after the other. -/
def decodeSegments (header payload : Text) : Except AuthError (Claims × Claims) :=
  match decodeJsonSegment library header with
  | .error error => .error error
  | .ok headerClaims =>
      match decodeJsonSegment library payload with
      | .error error => .error error
      | .ok payloadClaims => .ok (headerClaims, payloadClaims)

/-- The signature that belongs to a header and a payload. -/
def expectedSignature (key header payload : Text) : Except AuthError Bytes :=
  match encodeAscii (header ++ '.' :: payload) with
  | .error error => .error error
  | .ok message => .ok (library.hmacSha256 (encodeUtf8 key) message)

/-- Whether a payload has expired. -/
def isExpired (now : Int) (payload : Claims) : Except AuthError Bool :=
  match payload.lookup "exp" with
  | none | some .null => .ok false
  | some expiresAt =>
      match expiresAt.toInt library.intOfText with
      | .ok instant => .ok (instant < now)
      | .error .overflowError => .error .overflowError
      | .error _ => .ok true

/-- `verify_hs256_jwt`. -/
def verifyHs256Jwt (now : Int) (token key : Text) : Except AuthError (Option Claims) :=
  match token.splitOn '.' with
  | [headerSegment, payloadSegment, signatureSegment] =>
      match decodeSegments library headerSegment payloadSegment with
      | .error error => if error.isValueError then .ok none else .error error
      | .ok (header, payload) =>
          if !isHs256 header then .ok none
          else
            match expectedSignature library key headerSegment payloadSegment with
            | .error error => .error error
            | .ok expected =>
                match decodeSegment signatureSegment with
                | .error error => .error error
                | .ok supplied =>
                    if expected ≠ supplied then .ok none
                    else
                      match isExpired library now payload with
                      | .error error => .error error
                      | .ok expired => .ok (if expired then none else some payload)
  | _ => .ok none

/-- The token behind the scheme, if that is the one expected. -/
def credentialOf (scheme : Text) (header : Text) : Option Text :=
  match partitionAt? ' ' header with
  | some (given, credential) =>
      if library.casefold given ≠ scheme ∨ credential = [] then none else some credential
  | none => none

/-- The scopes of a payload: a list, or the words of a text. -/
def scopesOf (claims : Claims) : List Text :=
  let scope := (claims.lookup "scope").getD .null
  let scp := (claims.lookup "scp").getD .null
  let rawScope := if isTruthy scope then scope else if isTruthy scp then scp else .text ""
  match rawScope with
  | .list items => items.map library.str
  | value => ((library.str value).splitOnP isSpace).filter (· ≠ [])

/-- The principal of a verified payload. -/
def tokenPrincipal (claims : Claims) : ControlPlanePrincipal where
  subject := library.str ((claims.lookup "sub").getD (.text "unknown"))
  scopes := scopesOf library claims
  authMethod := "jwt"

/-- `_authorize_jwt`. -/
def authorizeJwt (now : Int) (authorizationHeader : Option Text) :
    Except AuthError (Option ControlPlanePrincipal) :=
  match given settings.jwtVerificationKey, given authorizationHeader with
  | some key, some header =>
      match credentialOf library "bearer".toList header with
      | none => .ok none
      | some token =>
          match verifyHs256Jwt library now token key with
          | .error error => .error error
          | .ok verified => .ok (verified.map (tokenPrincipal library))
  | _, _ => .ok none

/-- `authorize_control_plane_request`. -/
def authorizeControlPlaneRequest (now : Int) (requiredScope : Text)
    (osSecurityKeyHeader authorizationHeader : Option Text) :
    Except AuthError (Option ControlPlanePrincipal) :=
  match authorizeSecurityKey settings osSecurityKeyHeader with
  | .error error => .error error
  | .ok securityKeyPrincipal =>
      if securityKeyPrincipal.any (·.hasScope requiredScope) then .ok securityKeyPrincipal
      else
        match authorizeJwt library settings now authorizationHeader with
        | .error error => .error error
        | .ok jwtPrincipal =>
            if jwtPrincipal.any (·.hasScope requiredScope) then .ok jwtPrincipal
            else if settings.isProduction then .ok none
            else if (given settings.osSecurityKey).isNone &&
                (given settings.jwtVerificationKey).isNone then .ok (some localDeveloper)
            else .ok none

/-! ## The web application and Slack -/

/-- `_basic_auth_is_valid`. -/
def basicAuthIsValid (authorizationHeader : Option Text) : Except AuthError Bool :=
  match given authorizationHeader, given settings.appAccessPassword with
  | some header, some accessPassword =>
      match credentialOf library "basic".toList header with
      | none => .ok false
      | some encoded =>
          match (b64decode true encoded).bind decodeUtf8 with
          | .error .binasciiError | .error .unicodeDecodeError => .ok false
          | .error error => .error error
          | .ok decoded =>
              match partitionAt? ':' decoded with
              | none => .ok false
              | some (username, password) =>
                  match compareDigest username settings.appAccessUsername with
                  | .error error => .error error
                  | .ok false => .ok false
                  | .ok true => compareDigest password accessPassword
  | _, _ => .ok false

/-- `hexdigest()`. -/
def hexdigest (digest : Bytes) : Text :=
  digest.flatMap fun byte =>
    [Nat.digitChar (byte.toNat / 16), Nat.digitChar (byte.toNat % 16)]

/-- The signature that belongs to a timestamp and a body. -/
def slackSignature (signingSecret : Text) (message rawBody : Bytes) : Text :=
  "v0=".toList ++ hexdigest (library.hmacSha256 (encodeUtf8 signingSecret)
    (encodeUtf8 "v0:".toList ++ message ++ encodeUtf8 ":".toList ++ rawBody))

/-- `verify_slack_signature`. -/
def verifySlackSignature (rawBody : Bytes) (timestamp signature : Option Text)
    (signingSecret : Text) (now : Int) (toleranceSeconds : Int := 300) :
    Except AuthError Unit :=
  match given timestamp, given signature, given (some signingSecret) with
  | some timestamp, some signature, some signingSecret =>
      match library.intOfText (String.ofList timestamp) with
      | none => .error (.invalidSlackSignature "Invalid Slack request timestamp")
      | some requestTime =>
          if toleranceSeconds < |now - requestTime| then
            .error (.invalidSlackSignature
              "Slack request timestamp is outside the allowed window")
          else
            match encodeAscii timestamp with
            | .error error => .error error
            | .ok message =>
                match compareDigest (slackSignature library signingSecret message rawBody)
                    signature with
                | .error error => .error error
                | .ok true => .ok ()
                | .ok false =>
                    .error (.invalidSlackSignature "Invalid Slack request signature")
  | _, _, _ => .error (.invalidSlackSignature "Missing Slack signature headers")

end Verifiers

/-! ## Valid credentials -/

section Credentials

variable (library : AuthLibrary) (settings : AuthSettings)

/-- The header is the configured key. -/
def KeyMatches (osSecurityKeyHeader : Option Text) : Prop :=
  ∃ key, given settings.osSecurityKey = some key ∧ given osSecurityKeyHeader = some key

/-- The token that a header carries for the configured key, by its segments. -/
structure Presented (authorizationHeader : Option Text)
    (key headerSegment payloadSegment signatureSegment : Text) : Prop where
  configured : given settings.jwtVerificationKey = some key
  carried : ∃ header token, given authorizationHeader = some header ∧
    credentialOf library "bearer".toList header = some token ∧
      token.splitOn '.' = [headerSegment, payloadSegment, signatureSegment]

/-- A payload without an instant, or with one that has not passed. -/
def Unexpired (now : Int) (payload : Claims) : Prop :=
  ∀ value, payload.lookup "exp" = some value →
    value = .null ∨ ∃ instant, value.toInt library.intOfText = .ok instant ∧ now ≤ instant

/-- HMAC of exactly the bytes in front of the signature. -/
def signatureOf (key headerSegment payloadSegment : Text) : Bytes :=
  library.hmacSha256 (encodeUtf8 key)
    ((headerSegment ++ '.' :: payloadSegment).map fun character =>
      UInt8.ofNat character.toNat)

/-- Segments with the right signature and a payload that has not expired. -/
def SignedPayload (now : Int) (key headerSegment payloadSegment signatureSegment : Text)
    (payload : Claims) : Prop :=
  ∃ header, decodeSegments library headerSegment payloadSegment = .ok (header, payload) ∧
    isHs256 header = true ∧
    decodeSegment signatureSegment =
      .ok (signatureOf library key headerSegment payloadSegment) ∧
    Unexpired library now payload

/-- A token with the right signature that has not expired. -/
def ValidToken (now : Int) (authorizationHeader : Option Text) (payload : Claims) : Prop :=
  ∃ key headerSegment payloadSegment signatureSegment,
    Presented library settings authorizationHeader key headerSegment payloadSegment
        signatureSegment ∧
      SignedPayload library now key headerSegment payloadSegment signatureSegment payload

/-- A declared rejection, or a principal with the required scope and a valid credential. -/
def ControlPlaneSound (now : Int) (requiredScope : Text)
    (osSecurityKeyHeader authorizationHeader : Option Text) : Prop :=
  ∃ found, authorizeControlPlaneRequest library settings now requiredScope
      osSecurityKeyHeader authorizationHeader = .ok found ∧
    ∀ principal, found = some principal → principal.hasScope requiredScope = true ∧
      (KeyMatches settings osSecurityKeyHeader ∨
        ∃ payload, ValidToken library settings now authorizationHeader payload ∧
          requiredScope ∈ scopesOf library payload)

/-- Nothing but a `ValueError` comes of the first two segments, the signature is Base64,
and the instant of a signed payload is not infinite. -/
def SegmentsReadable (key headerSegment payloadSegment signatureSegment : Text) : Prop :=
  match decodeSegments library headerSegment payloadSegment with
  | .error error => error.isValueError = true
  | .ok (header, payload) => isHs256 header = true →
      ∃ supplied, decodeSegment signatureSegment = .ok supplied ∧
        (supplied = signatureOf library key headerSegment payloadSegment →
          payload.lookup "exp" ≠ some (.float .infinite))

/-- The segments of a token that is presented are readable. -/
def TokenReadable (authorizationHeader : Option Text) : Prop :=
  ∀ key headerSegment payloadSegment signatureSegment,
    Presented library settings authorizationHeader key headerSegment payloadSegment
        signatureSegment →
      SegmentsReadable library key headerSegment payloadSegment signatureSegment

/-- When control-plane authorization is sound: security keys are ASCII, tokens that are
read are readable, and some key is configured outside production. -/
structure ControlPlaneReadable (requiredScope : Text)
    (osSecurityKeyHeader authorizationHeader : Option Text) : Prop where
  ascii : ∀ key header, given settings.osSecurityKey = some key →
    given osSecurityKeyHeader = some header → isAscii key = true ∧ isAscii header = true
  token : ¬(KeyMatches settings osSecurityKeyHeader ∧ requiredScope ∈ allScopes) →
    TokenReadable library settings authorizationHeader
  configured : settings.isProduction = true ∨ given settings.osSecurityKey ≠ none ∨
    given settings.jwtVerificationKey ≠ none

/-- The credentials that a header carries where a password is configured. -/
structure BasicPresented (authorizationHeader : Option Text)
    (accessPassword encoded : Text) : Prop where
  configured : given settings.appAccessPassword = some accessPassword
  carried : ∃ header, given authorizationHeader = some header ∧
    credentialOf library "basic".toList header = some encoded

/-- Basic authentication answers, and accepts only the configured name and password. -/
def BasicSound (authorizationHeader : Option Text) : Prop :=
  ∃ valid, basicAuthIsValid library settings authorizationHeader = .ok valid ∧
    (valid = true → ∃ accessPassword encoded,
      BasicPresented library settings authorizationHeader accessPassword encoded ∧
        (b64decode true encoded).bind decodeUtf8 =
          .ok (settings.appAccessUsername ++ ':' :: accessPassword))

/-- Credentials are ASCII, the names that are compared are, and so are the passwords
where the names agree. -/
def BasicReadable (authorizationHeader : Option Text) : Prop :=
  ∀ accessPassword encoded,
    BasicPresented library settings authorizationHeader accessPassword encoded →
      isAscii encoded = true ∧
        ∀ username password, ':' ∉ username →
          (b64decode true encoded).bind decodeUtf8 = .ok (username ++ ':' :: password) →
            isAscii username = true ∧ isAscii settings.appAccessUsername = true ∧
              (username = settings.appAccessUsername →
                isAscii password = true ∧ isAscii accessPassword = true)

/-- The timestamp and the signature of a request that is fresh. -/
structure SlackPresented (timestamp signature : Option Text) (signingSecret : Text)
    (now toleranceSeconds : Int) (sent signed : Text) : Prop where
  timestamp : given timestamp = some sent
  signature : given signature = some signed
  configured : signingSecret ≠ []
  fresh : ∃ requestTime, library.intOfText (String.ofList sent) = some requestTime ∧
    |now - requestTime| ≤ toleranceSeconds

/-- A request of Slack is rejected, or it is fresh and carries the signature of exactly its
timestamp and its body. -/
def SlackSound (rawBody : Bytes) (timestamp signature : Option Text) (signingSecret : Text)
    (now toleranceSeconds : Int) : Prop :=
  (verifySlackSignature library rawBody timestamp signature signingSecret now
      toleranceSeconds = .ok () ∧
    ∃ sent signed, SlackPresented library timestamp signature signingSecret now
        toleranceSeconds sent signed ∧
      signed = slackSignature library signingSecret
        (sent.map fun character => UInt8.ofNat character.toNat) rawBody) ∨
  ∃ message, verifySlackSignature library rawBody timestamp signature signingSecret now
    toleranceSeconds = .error (.invalidSlackSignature message)

/-- The timestamp and the signature of a fresh request are ASCII. -/
def SlackReadable (timestamp signature : Option Text) (signingSecret : Text)
    (now toleranceSeconds : Int) : Prop :=
  ∀ sent signed, SlackPresented library timestamp signature signingSecret now
    toleranceSeconds sent signed → isAscii sent = true ∧ isAscii signed = true

end Credentials

/-! ## The control plane -/

section ControlPlane

variable {library : AuthLibrary} {settings : AuthSettings}

theorem compareDigest_ok {first second : Text} {same : Bool} :
    compareDigest first second = .ok same ↔
      isAscii first = true ∧ isAscii second = true ∧ same = decide (first = second) := by
  rw [compareDigest]
  by_cases ascii : isAscii first = true ∧ isAscii second = true
  · simp [ascii.1, ascii.2, eq_comm]
  · have refused : (isAscii first && isAscii second) = false := by
      simpa using ascii
    rw [refused]
    simp only [Bool.false_eq_true, if_false]
    constructor
    · nofun
    · rintro ⟨front, back, _⟩
      exact absurd ⟨front, back⟩ ascii

theorem isAscii_append {front back : Text} :
    isAscii (front ++ back) = (isAscii front && isAscii back) :=
  List.all_append

/-- What decodes is ASCII. -/
theorem isAscii_of_decodeSegment {segment : Text} {decoded : Bytes}
    (decodes : decodeSegment segment = .ok decoded) : isAscii segment = true := by
  rw [decodeSegment, urlsafeB64decode, b64decode] at decodes
  split_ifs at decodes with ascii
  rw [List.map_append, isAscii_append, Bool.and_eq_true] at ascii
  have mapped := ascii.1
  rw [isAscii, List.all_map] at mapped
  rw [isAscii, List.all_eq_true] at *
  intro character member
  have small := mapped character member
  simp only [Function.comp_apply] at small
  by_cases dash : character = '-'
  · rw [dash]
    decide
  · by_cases underscore : character = '_'
    · rw [underscore]
      decide
    · rwa [if_neg dash, if_neg underscore] at small

theorem isAscii_of_decodeSegments {headerSegment payloadSegment : Text}
    {claims : Claims × Claims}
    (decodes : decodeSegments library headerSegment payloadSegment = .ok claims) :
    isAscii (headerSegment ++ '.' :: payloadSegment) = true := by
  have each {segment : Text} {fields : Claims}
      (decodes : decodeJsonSegment library segment = .ok fields) :
      isAscii segment = true := by
    rw [decodeJsonSegment] at decodes
    cases decoded : decodeSegment segment with
    | error error =>
        rw [decoded] at decodes
        cases decodes
    | ok bytes => exact isAscii_of_decodeSegment decoded
  rw [decodeSegments] at decodes
  cases header : decodeJsonSegment library headerSegment with
  | error error =>
      rw [header] at decodes
      cases decodes
  | ok headerClaims =>
      rw [header] at decodes
      cases payload : decodeJsonSegment library payloadSegment with
      | error error =>
          rw [payload] at decodes
          cases decodes
      | ok payloadClaims =>
          have dot : isAscii ['.'] = true := by decide
          rw [← List.singleton_append, isAscii_append, isAscii_append, each header,
            each payload, dot]
          rfl

theorem expectedSignature_of_decodeSegments (key : Text)
    {headerSegment payloadSegment : Text} {claims : Claims × Claims}
    (decodes : decodeSegments library headerSegment payloadSegment = .ok claims) :
    expectedSignature library key headerSegment payloadSegment =
      .ok (signatureOf library key headerSegment payloadSegment) := by
  rw [expectedSignature, encodeAscii, if_pos (isAscii_of_decodeSegments decodes)]
  rfl

/-- Only an infinite number overflows. -/
theorem toInt_overflow {value : Json}
    (overflows : value.toInt library.intOfText = .error .overflowError) :
    value = .float .infinite := by
  cases value with
  | float number =>
      cases number with
      | infinite => rfl
      | finite number => cases overflows
      | nan => cases overflows
  | text text =>
      rw [Json.toInt] at overflows
      split at overflows <;> cases overflows
  | _ => cases overflows

theorem isExpired_of_value (library : AuthLibrary) (now : Int) {payload : Claims} {value : Json}
    (found : payload.lookup "exp" = some value) (given : value ≠ .null) :
    isExpired library now payload =
      match value.toInt library.intOfText with
      | .ok instant => .ok (instant < now)
      | .error .overflowError => .error .overflowError
      | .error _ => .ok true := by
  rw [isExpired, found]
  cases value with
  | null => exact absurd rfl given
  | _ => rfl

/-- What `isExpired` finds. -/
theorem isExpired_cases (library : AuthLibrary) (now : Int) (payload : Claims) :
    (isExpired library now payload = .error .overflowError ∧
        payload.lookup "exp" = some (.float .infinite)) ∨
      payload.lookup "exp" ≠ some (.float .infinite) ∧
        ((isExpired library now payload = .ok true) ∨
          isExpired library now payload = .ok false ∧ Unexpired library now payload) := by
  cases found : payload.lookup "exp" with
  | none =>
      have absent : isExpired library now payload = .ok false := by
        rw [isExpired, found]
      refine .inr ⟨nofun, .inr ⟨absent, ?_⟩⟩
      rw [Unexpired, found]
      nofun
  | some value =>
      have unexpired : (value = .null ∨ ∃ instant,
          value.toInt library.intOfText = .ok instant ∧ now ≤ instant) →
            Unexpired library now payload := by
        intro holds other same
        rw [found] at same
        cases same
        exact holds
      by_cases null : value = .null
      · subst null
        have empty : isExpired library now payload = .ok false := by
          rw [isExpired, found]
        exact .inr ⟨nofun, .inr ⟨empty, unexpired (.inl rfl)⟩⟩
      · have read := isExpired_of_value library now found null
        cases converted : value.toInt library.intOfText with
        | ok instant =>
            simp only [converted] at read
            have finite : some value ≠ some (.float .infinite) := by
              rintro same
              cases same
              cases converted
            refine .inr ⟨finite, ?_⟩
            by_cases passed : instant < now
            · exact .inl (by rw [read, decide_eq_true passed])
            · exact .inr ⟨by rw [read, decide_eq_false passed],
                unexpired (.inr ⟨instant, converted, not_lt.mp passed⟩)⟩
        | error error =>
            by_cases infinite : value = .float .infinite
            · subst infinite
              cases converted
              exact .inl ⟨read, rfl⟩
            · have caught : error ≠ .overflowError := by
                rintro rfl
                exact infinite (toInt_overflow converted)
              rw [converted] at read
              refine .inr ⟨by simpa using infinite, .inl ?_⟩
              cases error with
              | overflowError => exact absurd rfl caught
              | _ => exact read

variable {osSecurityKeyHeader : Option Text}

/-- A security key is refused, or it is the configured one. -/
theorem authorizeSecurityKey_ok
    (ascii : ∀ key header, given settings.osSecurityKey = some key →
      given osSecurityKeyHeader = some header → isAscii key = true ∧ isAscii header = true) :
    (authorizeSecurityKey settings osSecurityKeyHeader = .ok (some osPrincipal) ∧
        KeyMatches settings osSecurityKeyHeader) ∨
      authorizeSecurityKey settings osSecurityKeyHeader = .ok none ∧
        ¬KeyMatches settings osSecurityKeyHeader := by
  rw [authorizeSecurityKey]
  cases configured : given settings.osSecurityKey with
  | none => exact .inr ⟨rfl, by rintro ⟨key, same, _⟩; rw [configured] at same; cases same⟩
  | some key =>
      cases carried : given osSecurityKeyHeader with
      | none => exact .inr ⟨rfl, by rintro ⟨key, _, same⟩; rw [carried] at same; cases same⟩
      | some header =>
          obtain ⟨front, back⟩ := ascii key header configured carried
          by_cases same : key = header
          · have compared : compareDigest key header = .ok true :=
              compareDigest_ok.mpr ⟨front, back, (decide_eq_true same).symm⟩
            subst same
            exact .inl ⟨by simp only [compared, if_true], key, configured, carried⟩
          · have compared : compareDigest key header = .ok false :=
              compareDigest_ok.mpr ⟨front, back, (decide_eq_false same).symm⟩
            refine .inr ⟨by simp [compared], ?_⟩
            rintro ⟨both, configured', carried'⟩
            rw [configured] at configured'
            rw [carried] at carried'
            cases configured'
            cases carried'
            exact same rfl

theorem ascii_of_authorizeSecurityKey {found : Option ControlPlanePrincipal}
    (returns : authorizeSecurityKey settings osSecurityKeyHeader = .ok found)
    {key header : Text} (configured : given settings.osSecurityKey = some key)
    (carried : given osSecurityKeyHeader = some header) :
    isAscii key = true ∧ isAscii header = true := by
  rw [authorizeSecurityKey, configured, carried] at returns
  cases compared : compareDigest key header with
  | error error =>
      simp only [compared] at returns
      cases returns
  | ok same =>
      obtain ⟨front, back, _⟩ := compareDigest_ok.mp compared
      exact ⟨front, back⟩

/-- What `verifyHs256Jwt` makes of three segments. -/
theorem verifyHs256Jwt_of_segments (library : AuthLibrary) (now : Int)
    {token key headerSegment payloadSegment signatureSegment : Text}
    (segments : token.splitOn '.' = [headerSegment, payloadSegment, signatureSegment]) :
    (¬SegmentsReadable library key headerSegment payloadSegment signatureSegment ∧
        ∃ error, verifyHs256Jwt library now token key = .error error) ∨
      SegmentsReadable library key headerSegment payloadSegment signatureSegment ∧
        (verifyHs256Jwt library now token key = .ok none ∨
          ∃ payload, verifyHs256Jwt library now token key = .ok (some payload) ∧
            SignedPayload library now key headerSegment payloadSegment signatureSegment
              payload) := by
  rw [verifyHs256Jwt, segments, SegmentsReadable]
  simp only
  cases decodes : decodeSegments library headerSegment payloadSegment with
  | error error =>
      by_cases caught : error.isValueError = true
      · exact .inr ⟨caught, .inl (by simp only [caught, if_true])⟩
      · exact .inl ⟨caught, error, by simp only [caught]; rfl⟩
  | ok claims =>
      obtain ⟨header, payload⟩ := claims
      have expected := expectedSignature_of_decodeSegments key decodes
      by_cases algorithm : isHs256 header = true
      · simp only [algorithm, expected, Bool.not_true, Bool.false_eq_true, if_false]
        cases supplied : decodeSegment signatureSegment with
        | error error =>
            refine .inl ⟨?_, error, rfl⟩
            intro readable
            obtain ⟨bytes, decoded, _⟩ := readable trivial
            cases decoded
        | ok bytes =>
            by_cases same : signatureOf library key headerSegment payloadSegment = bytes
            · subst same
              simp only [ne_eq, not_true_eq_false, if_false]
              rcases isExpired_cases library now payload with
                ⟨expired, infinite⟩ | ⟨finite, expired | ⟨expired, unexpired⟩⟩
              · refine .inl ⟨?_, .overflowError, by rw [expired]⟩
                intro readable
                obtain ⟨bytes, decoded, finite⟩ := readable trivial
                cases decoded
                exact finite rfl infinite
              · exact .inr ⟨fun _ => ⟨_, rfl, fun _ => finite⟩, .inl (by rw [expired]; rfl)⟩
              · exact .inr ⟨fun _ => ⟨_, rfl, fun _ => finite⟩, .inr ⟨payload,
                  by rw [expired]; rfl, header, decodes, algorithm, supplied, unexpired⟩⟩
            · refine .inr ⟨fun _ => ⟨bytes, rfl, fun equal => absurd equal.symm same⟩,
                .inl ?_⟩
              simp only [ne_eq, same, not_false_eq_true, if_true]
      · refine .inr ⟨fun same => absurd same algorithm, .inl ?_⟩
        simp only [algorithm]
        rfl

theorem Presented.unique {authorizationHeader : Option Text}
    {key headerSegment payloadSegment signatureSegment : Text}
    {key' headerSegment' payloadSegment' signatureSegment' : Text}
    (first : Presented library settings authorizationHeader key headerSegment
      payloadSegment signatureSegment)
    (second : Presented library settings authorizationHeader key' headerSegment'
      payloadSegment' signatureSegment') :
    key' = key ∧ headerSegment' = headerSegment ∧ payloadSegment' = payloadSegment ∧
      signatureSegment' = signatureSegment := by
  obtain ⟨configured, header, token, carried, credential, segments⟩ := first
  obtain ⟨configured', header', token', carried', credential', segments'⟩ := second
  rw [configured] at configured'
  cases configured'
  rw [carried] at carried'
  cases carried'
  rw [credential] at credential'
  cases credential'
  rw [segments] at segments'
  cases segments'
  exact ⟨rfl, rfl, rfl, rfl⟩

/-- A header carries a token of three segments, or `authorizeJwt` declines it unread. -/
theorem presented_or (library : AuthLibrary) (settings : AuthSettings) (now : Int)
    (authorizationHeader : Option Text) :
    (∃ key token headerSegment payloadSegment signatureSegment,
        Presented library settings authorizationHeader key headerSegment payloadSegment
            signatureSegment ∧
          token.splitOn '.' = [headerSegment, payloadSegment, signatureSegment] ∧
          authorizeJwt library settings now authorizationHeader =
            match verifyHs256Jwt library now token key with
            | .error error => .error error
            | .ok verified => .ok (verified.map (tokenPrincipal library))) ∨
      (∀ key headerSegment payloadSegment signatureSegment,
        ¬Presented library settings authorizationHeader key headerSegment payloadSegment
            signatureSegment) ∧
        authorizeJwt library settings now authorizationHeader = .ok none := by
  rw [authorizeJwt]
  cases configured : given settings.jwtVerificationKey with
  | none =>
      refine .inr ⟨?_, rfl⟩
      rintro key headerSegment payloadSegment signatureSegment ⟨configured', _⟩
      rw [configured] at configured'
      cases configured'
  | some key =>
      cases carried : given authorizationHeader with
      | none =>
          refine .inr ⟨?_, rfl⟩
          rintro key headerSegment payloadSegment signatureSegment ⟨_, header, _, carried', _⟩
          rw [carried] at carried'
          cases carried'
      | some header =>
          simp only
          cases credential : credentialOf library "bearer".toList header with
          | none =>
              refine .inr ⟨?_, rfl⟩
              rintro key headerSegment payloadSegment signatureSegment
                ⟨_, header', token, carried', credential', _⟩
              rw [carried] at carried'
              cases carried'
              rw [credential] at credential'
              cases credential'
          | some token =>
              by_cases three : ∃ headerSegment payloadSegment signatureSegment,
                  token.splitOn '.' = [headerSegment, payloadSegment, signatureSegment]
              · obtain ⟨headerSegment, payloadSegment, signatureSegment, segments⟩ := three
                exact .inl ⟨key, token, headerSegment, payloadSegment, signatureSegment,
                  ⟨configured, header, token, carried, credential, segments⟩, segments, rfl⟩
              · refine .inr ⟨?_, ?_⟩
                · rintro key headerSegment payloadSegment signatureSegment
                    ⟨_, header', token', carried', credential', segments⟩
                  rw [carried] at carried'
                  cases carried'
                  rw [credential] at credential'
                  cases credential'
                  exact three ⟨_, _, _, segments⟩
                · have declined : verifyHs256Jwt library now token key = .ok none := by
                    rw [verifyHs256Jwt]
                    split
                    · exact absurd ⟨_, _, _, ‹_›⟩ three
                    · rfl
                  simp only [declined]
                  rfl

/-- What `authorizeJwt` makes of a header. -/
theorem authorizeJwt_cases (library : AuthLibrary) (settings : AuthSettings) (now : Int)
    (authorizationHeader : Option Text) :
    (¬TokenReadable library settings authorizationHeader ∧
        ∃ error, authorizeJwt library settings now authorizationHeader = .error error) ∨
      TokenReadable library settings authorizationHeader ∧
        (authorizeJwt library settings now authorizationHeader = .ok none ∨
          ∃ principal payload,
            authorizeJwt library settings now authorizationHeader = .ok (some principal) ∧
            principal.scopes = scopesOf library payload ∧
            ValidToken library settings now authorizationHeader payload) := by
  rcases presented_or library settings now authorizationHeader with
    ⟨key, token, headerSegment, payloadSegment, signatureSegment, presented, segments, ran⟩ |
      ⟨absent, declined⟩
  · rcases verifyHs256Jwt_of_segments library now segments with
      ⟨unreadable, error, raises⟩ | ⟨readable, verified⟩
    · refine .inl ⟨fun readable => unreadable (readable _ _ _ _ presented), error, ?_⟩
      rw [ran, raises]
    · have token : TokenReadable library settings authorizationHeader := by
        intro key' headerSegment' payloadSegment' signatureSegment' presented'
        obtain ⟨rfl, rfl, rfl, rfl⟩ := presented.unique presented'
        exact readable
      refine .inr ⟨token, ?_⟩
      rcases verified with declined | ⟨payload, accepted, signed⟩
      · exact .inl (by rw [ran, declined]; rfl)
      · refine .inr ⟨tokenPrincipal library payload, payload, ?_, rfl, key, headerSegment,
          payloadSegment, signatureSegment, presented, signed⟩
        rw [ran, accepted]
        rfl
  · exact .inr ⟨fun _ _ _ _ presented => absurd presented (absent _ _ _ _), .inl declined⟩

theorem hasScope_iff {principal : ControlPlanePrincipal} {scope : Text} :
    principal.hasScope scope = true ↔ scope ∈ principal.scopes :=
  List.contains_iff_mem

/-- The configured key is accepted for the scopes that it has. -/
theorem authorize_of_key (library : AuthLibrary) (now : Int) {requiredScope : Text}
    (authorizationHeader : Option Text)
    (ascii : ∀ key header, given settings.osSecurityKey = some key →
      given osSecurityKeyHeader = some header → isAscii key = true ∧ isAscii header = true)
    (keyed : KeyMatches settings osSecurityKeyHeader) (has : requiredScope ∈ allScopes) :
    authorizeControlPlaneRequest library settings now requiredScope osSecurityKeyHeader
        authorizationHeader = .ok (some osPrincipal) := by
  have holds : (some osPrincipal).any (·.hasScope requiredScope) = true := by
    rw [Option.any_some, hasScope_iff]
    exact has
  rcases authorizeSecurityKey_ok ascii with ⟨accepted, _⟩ | ⟨_, unkeyed⟩
  · rw [authorizeControlPlaneRequest, accepted]
    simp only [holds, if_true]
  · exact absurd keyed unkeyed

/-- Without a key that has the scope, the token decides. -/
theorem authorize_of_unkeyed (library : AuthLibrary) (now : Int) {requiredScope : Text}
    (authorizationHeader : Option Text)
    (ascii : ∀ key header, given settings.osSecurityKey = some key →
      given osSecurityKeyHeader = some header → isAscii key = true ∧ isAscii header = true)
    (unkeyed : ¬(KeyMatches settings osSecurityKeyHeader ∧ requiredScope ∈ allScopes)) :
    authorizeControlPlaneRequest library settings now requiredScope osSecurityKeyHeader
        authorizationHeader =
      match authorizeJwt library settings now authorizationHeader with
      | .error error => .error error
      | .ok jwtPrincipal =>
          if jwtPrincipal.any (·.hasScope requiredScope) then .ok jwtPrincipal
          else if settings.isProduction then .ok none
          else if (given settings.osSecurityKey).isNone &&
              (given settings.jwtVerificationKey).isNone then .ok (some localDeveloper)
          else .ok none := by
  rcases authorizeSecurityKey_ok ascii with ⟨accepted, keyed⟩ | ⟨refused, _⟩
  · have lacks : (some osPrincipal).any (·.hasScope requiredScope) = false := by
      rw [Option.any_some, Bool.eq_false_iff, ne_eq, hasScope_iff]
      exact fun has => unkeyed ⟨keyed, has⟩
    rw [authorizeControlPlaneRequest, accepted]
    simp only [lacks, Bool.false_eq_true, if_false]
  · rw [authorizeControlPlaneRequest, refused]
    simp only [Option.any_none, Bool.false_eq_true, if_false]

/-- Control-plane authorization is sound on exactly the readable requests. -/
theorem controlPlane_sound_iff (library : AuthLibrary) (settings : AuthSettings) (now : Int)
    (requiredScope : Text) (osSecurityKeyHeader authorizationHeader : Option Text) :
    ControlPlaneSound library settings now requiredScope osSecurityKeyHeader
        authorizationHeader ↔
      ControlPlaneReadable library settings requiredScope osSecurityKeyHeader
        authorizationHeader := by
  constructor
  · rintro ⟨found, ran, sound⟩
    have ascii : ∀ key header, given settings.osSecurityKey = some key →
        given osSecurityKeyHeader = some header →
          isAscii key = true ∧ isAscii header = true := by
      intro key header configured carried
      rw [authorizeControlPlaneRequest] at ran
      cases keyed : authorizeSecurityKey settings osSecurityKeyHeader with
      | error error =>
          rw [keyed] at ran
          cases ran
      | ok principal => exact ascii_of_authorizeSecurityKey keyed configured carried
    refine ⟨ascii, ?_, ?_⟩
    · intro unkeyed
      rw [authorize_of_unkeyed library now authorizationHeader ascii unkeyed] at ran
      rcases authorizeJwt_cases library settings now authorizationHeader with
        ⟨_, error, raises⟩ | ⟨readable, _⟩
      · rw [raises] at ran
        cases ran
      · exact readable
    · by_contra unconfigured
      simp only [not_or, not_not, Bool.not_eq_true] at unconfigured
      obtain ⟨development, noKey, noToken⟩ := unconfigured
      have unkeyed : ¬KeyMatches settings osSecurityKeyHeader := by
        rintro ⟨key, configured, _⟩
        rw [noKey] at configured
        cases configured
      have declined : authorizeJwt library settings now authorizationHeader = .ok none := by
        rw [authorizeJwt, noToken]
      rw [authorize_of_unkeyed library now authorizationHeader ascii
        (fun both => unkeyed both.1), declined] at ran
      simp only [Option.any_none, Bool.false_eq_true, if_false, development, noKey, noToken,
        Option.isNone_none, Bool.and_self, if_true] at ran
      cases ran
      rcases (sound localDeveloper rfl).2 with keyed | ⟨payload, valid, _⟩
      · exact unkeyed keyed
      · obtain ⟨key, _, _, _, presented, _⟩ := valid
        have configured := presented.configured
        rw [noToken] at configured
        cases configured
  · intro readable
    by_cases keyed : KeyMatches settings osSecurityKeyHeader ∧ requiredScope ∈ allScopes
    · refine ⟨_, authorize_of_key library now authorizationHeader readable.ascii keyed.1
        keyed.2, ?_⟩
      rintro principal same
      cases same
      exact ⟨hasScope_iff.mpr keyed.2, .inl keyed.1⟩
    · have closed : settings.isProduction = false →
          ((given settings.osSecurityKey).isNone &&
            (given settings.jwtVerificationKey).isNone) = false := by
        intro development
        rcases readable.configured with production | key | token
        · rw [development] at production
          cases production
        · rw [Option.isNone_eq_false_iff.mpr (Option.isSome_iff_ne_none.mpr key),
            Bool.false_and]
        · rw [Option.isNone_eq_false_iff.mpr (Option.isSome_iff_ne_none.mpr token),
            Bool.and_false]
      rw [ControlPlaneSound, authorize_of_unkeyed library now authorizationHeader
        readable.ascii keyed]
      rcases authorizeJwt_cases library settings now authorizationHeader with
        ⟨unreadable, _⟩ | ⟨_, declined | ⟨principal, payload, accepted, scopes, valid⟩⟩
      · exact absurd (readable.token keyed) unreadable
      · refine ⟨none, ?_, nofun⟩
        rw [declined]
        cases production : settings.isProduction with
        | true => rfl
        | false => simp [closed production]
      · rw [accepted]
        by_cases has : principal.hasScope requiredScope = true
        · refine ⟨some principal, by simp [has], ?_⟩
          rintro other same
          cases same
          refine ⟨has, .inr ⟨payload, valid, ?_⟩⟩
          rw [← scopes]
          exact hasScope_iff.mp has
        · refine ⟨none, ?_, nofun⟩
          cases production : settings.isProduction with
          | true => simp [has]
          | false => simp [has, closed production]

end ControlPlane

/-! ## The web application -/

section WebApplication

variable {library : AuthLibrary} {settings : AuthSettings}

theorem partitionAt?_append {separator : Char} {front : Text} (back : Text)
    (absent : separator ∉ front) :
    partitionAt? separator (front ++ separator :: back) = some (front, back) := by
  have differ : ∀ character ∈ front, decide (character ≠ separator) = true := by
    intro character member
    rw [decide_eq_true_eq]
    rintro rfl
    exact absent member
  rw [partitionAt?, if_pos (by simp), List.takeWhile_append_of_pos differ,
    List.dropWhile_append_of_pos differ]
  simp

theorem partitionAt?_eq_some {separator : Char} {text front back : Text} :
    partitionAt? separator text = some (front, back) ↔
      text = front ++ separator :: back ∧ separator ∉ front := by
  constructor
  · intro parts
    have member : separator ∈ text := by
      by_contra absent
      rw [partitionAt?, if_neg absent] at parts
      cases parts
    obtain ⟨first, rest, rfl, absent⟩ := List.eq_append_cons_of_mem member
    rw [partitionAt?_append rest absent] at parts
    cases parts
    exact ⟨rfl, absent⟩
  · rintro ⟨rfl, absent⟩
    exact partitionAt?_append back absent

/-- What decoding gives, by whether the credentials are ASCII. -/
theorem decoded_cases (encoded : Text) :
    (isAscii encoded = false ∧
        (b64decode true encoded).bind decodeUtf8 = .error .valueError) ∨
      isAscii encoded = true ∧
        ((∃ decoded, (b64decode true encoded).bind decodeUtf8 = .ok decoded) ∨
          (b64decode true encoded).bind decodeUtf8 = .error .binasciiError ∨
          (b64decode true encoded).bind decodeUtf8 = .error .unicodeDecodeError) := by
  rw [b64decode]
  cases ascii : isAscii encoded with
  | false => exact .inl ⟨rfl, rfl⟩
  | true =>
      refine .inr ⟨rfl, ?_⟩
      rw [if_pos rfl]
      cases a2bBase64 true encoded with
      | none => exact .inr (.inl rfl)
      | some bytes =>
          simp only [Except.bind, decodeUtf8]
          cases String.fromUTF8? ⟨bytes.toArray⟩ with
          | none => exact .inr (.inr rfl)
          | some text => exact .inl ⟨_, rfl⟩

/-- The last step of basic authentication: the names, then the passwords. -/
theorem comparisons_ok {username password configuredName configuredPassword : Text} :
    (∃ valid, (match compareDigest username configuredName with
        | .error error => .error error
        | .ok false => .ok false
        | .ok true => compareDigest password configuredPassword) = Except.ok valid ∧
      (valid = true → username = configuredName ∧ password = configuredPassword)) ↔
      isAscii username = true ∧ isAscii configuredName = true ∧
        (username = configuredName →
          isAscii password = true ∧ isAscii configuredPassword = true) := by
  constructor
  · rintro ⟨valid, ran, _⟩
    cases names : compareDigest username configuredName with
    | error error =>
        rw [names] at ran
        cases ran
    | ok same =>
        obtain ⟨ascii, configured, agree⟩ := compareDigest_ok.mp names
        refine ⟨ascii, configured, ?_⟩
        intro equal
        rw [decide_eq_true equal] at agree
        subst agree
        simp only [names] at ran
        obtain ⟨front, back, _⟩ := compareDigest_ok.mp ran
        exact ⟨front, back⟩
  · rintro ⟨ascii, configured, passwords⟩
    have names := compareDigest_ok.mpr ⟨ascii, configured, rfl⟩
    by_cases equal : username = configuredName
    · rw [decide_eq_true equal] at names
      obtain ⟨front, back⟩ := passwords equal
      rw [names]
      exact ⟨_, compareDigest_ok.mpr ⟨front, back, rfl⟩,
        fun same => ⟨equal, of_decide_eq_true same⟩⟩
    · rw [decide_eq_false equal] at names
      rw [names]
      exact ⟨false, rfl, nofun⟩

variable {authorizationHeader : Option Text}

theorem BasicPresented.unique {accessPassword encoded accessPassword' encoded' : Text}
    (first : BasicPresented library settings authorizationHeader accessPassword encoded)
    (second : BasicPresented library settings authorizationHeader accessPassword' encoded') :
    accessPassword' = accessPassword ∧ encoded' = encoded := by
  obtain ⟨configured, header, carried, credential⟩ := first
  obtain ⟨configured', header', carried', credential'⟩ := second
  rw [configured] at configured'
  cases configured'
  rw [carried] at carried'
  cases carried'
  rw [credential] at credential'
  cases credential'
  exact ⟨rfl, rfl⟩

theorem basicAuthIsValid_of_presented {accessPassword encoded : Text}
    (presented : BasicPresented library settings authorizationHeader accessPassword encoded) :
    basicAuthIsValid library settings authorizationHeader =
      match (b64decode true encoded).bind decodeUtf8 with
      | .error .binasciiError | .error .unicodeDecodeError => .ok false
      | .error error => .error error
      | .ok decoded =>
          match partitionAt? ':' decoded with
          | none => .ok false
          | some (username, password) =>
              match compareDigest username settings.appAccessUsername with
              | .error error => .error error
              | .ok false => .ok false
              | .ok true => compareDigest password accessPassword := by
  obtain ⟨configured, header, carried, credential⟩ := presented
  rw [basicAuthIsValid, carried, configured]
  simp only [credential]

theorem basicAuthIsValid_of_absent (absent : ∀ accessPassword encoded,
      ¬BasicPresented library settings authorizationHeader accessPassword encoded) :
    basicAuthIsValid library settings authorizationHeader = .ok false := by
  rw [basicAuthIsValid]
  cases carried : given authorizationHeader with
  | none => rfl
  | some header =>
      cases configured : given settings.appAccessPassword with
      | none => rfl
      | some accessPassword =>
          cases credential : credentialOf library "basic".toList header with
          | none => simp only [credential]
          | some encoded =>
              exact absurd ⟨configured, header, carried, credential⟩
                (absent accessPassword encoded)

/-- Where a name and a password decode, the comparisons decide. -/
theorem basic_sound_iff_of_parts {accessPassword encoded username password : Text}
    (presented : BasicPresented library settings authorizationHeader accessPassword encoded)
    (absent : ':' ∉ username)
    (decodes : (b64decode true encoded).bind decodeUtf8 =
      .ok (username ++ ':' :: password)) :
    BasicSound library settings authorizationHeader ↔
      isAscii username = true ∧ isAscii settings.appAccessUsername = true ∧
        (username = settings.appAccessUsername →
          isAscii password = true ∧ isAscii accessPassword = true) := by
  rw [← comparisons_ok, BasicSound, basicAuthIsValid_of_presented presented, decodes]
  simp only [partitionAt?_append password absent]
  apply exists_congr
  intro valid
  apply and_congr_right
  intro ran
  apply imp_congr_right
  rintro rfl
  constructor
  · intro _
    cases names : compareDigest username settings.appAccessUsername with
    | error error =>
        rw [names] at ran
        cases ran
    | ok same =>
        obtain ⟨_, _, agree⟩ := compareDigest_ok.mp names
        cases same with
        | false =>
            rw [names] at ran
            cases ran
        | true =>
            rw [names] at ran
            obtain ⟨_, _, equal⟩ := compareDigest_ok.mp ran
            exact ⟨of_decide_eq_true agree.symm, of_decide_eq_true equal.symm⟩
  · rintro ⟨rfl, rfl⟩
    exact ⟨_, _, presented, decodes⟩

/-- Basic authentication is sound on exactly the readable headers. -/
theorem basic_sound_iff (library : AuthLibrary) (settings : AuthSettings)
    (authorizationHeader : Option Text) :
    BasicSound library settings authorizationHeader ↔
      BasicReadable library settings authorizationHeader := by
  by_cases carries : ∃ accessPassword encoded,
      BasicPresented library settings authorizationHeader accessPassword encoded
  · obtain ⟨accessPassword, encoded, presented⟩ := carries
    have readable_iff : BasicReadable library settings authorizationHeader ↔
        isAscii encoded = true ∧ ∀ username password, ':' ∉ username →
          (b64decode true encoded).bind decodeUtf8 = .ok (username ++ ':' :: password) →
            isAscii username = true ∧ isAscii settings.appAccessUsername = true ∧
              (username = settings.appAccessUsername →
                isAscii password = true ∧ isAscii accessPassword = true) := by
      constructor
      · intro readable
        exact readable _ _ presented
      · intro readable accessPassword' encoded' presented'
        obtain ⟨rfl, rfl⟩ := presented.unique presented'
        exact readable
    rw [readable_iff]
    have declined (answers : basicAuthIsValid library settings authorizationHeader =
        .ok false) : BasicSound library settings authorizationHeader :=
      ⟨false, answers, nofun⟩
    rcases decoded_cases encoded with
      ⟨ascii, raises⟩ | ⟨ascii, ⟨decoded, decodes⟩ | caught | caught⟩
    · -- `b64decode` raises a plain `ValueError`, which is not caught
      constructor
      · rintro ⟨valid, ran, _⟩
        rw [basicAuthIsValid_of_presented presented, raises] at ran
        cases ran
      · rintro ⟨ascii', _⟩
        rw [ascii] at ascii'
        cases ascii'
    · by_cases colon : ':' ∈ decoded
      · obtain ⟨username, password, rfl, absent⟩ := List.eq_append_cons_of_mem colon
        rw [basic_sound_iff_of_parts presented absent decodes]
        constructor
        · intro comparable
          refine ⟨ascii, fun username' password' absent' decodes' => ?_⟩
          have same := partitionAt?_append password absent
          rw [decodes] at decodes'
          rw [Except.ok.inj decodes', partitionAt?_append password' absent'] at same
          cases same
          exact comparable
        · intro readable
          exact readable.2 username password absent decodes
      · have parts : partitionAt? ':' decoded = none := by
          rw [partitionAt?, if_neg colon]
        have answers : basicAuthIsValid library settings authorizationHeader = .ok false := by
          rw [basicAuthIsValid_of_presented presented, decodes]
          simp only [parts]
        refine iff_of_true (declined answers) ⟨ascii, ?_⟩
        intro username password absent decodes'
        rw [decodes] at decodes'
        cases decodes'
        exact absurd (by simp) colon
    all_goals
      have answers : basicAuthIsValid library settings authorizationHeader = .ok false := by
        rw [basicAuthIsValid_of_presented presented, caught]
      refine iff_of_true (declined answers) ⟨ascii, ?_⟩
      intro username password absent decodes
      rw [caught] at decodes
      cases decodes
  · have absent : ∀ accessPassword encoded,
        ¬BasicPresented library settings authorizationHeader accessPassword encoded :=
      fun accessPassword encoded presented => carries ⟨accessPassword, encoded, presented⟩
    exact iff_of_true ⟨false, basicAuthIsValid_of_absent absent, nofun⟩
      (fun accessPassword encoded presented => absurd presented (absent _ _))

end WebApplication

/-! ## Slack -/

section Slack

variable {library : AuthLibrary}

theorem isAscii_hexdigest (digest : Bytes) : isAscii (hexdigest digest) = true := by
  have digit (value : Nat) (small : value < 16) : (Nat.digitChar value).val < 128 := by
    revert value
    decide
  rw [isAscii, hexdigest, List.all_flatMap, List.all_eq_true]
  intro byte _
  have high : byte.toNat / 16 < 16 := by
    have := byte.toNat_lt
    omega
  simp [digit _ high, digit _ (Nat.mod_lt byte.toNat (by decide : 16 > 0))]

theorem isAscii_slackSignature (signingSecret : Text) (message rawBody : Bytes) :
    isAscii (slackSignature library signingSecret message rawBody) = true := by
  rw [slackSignature, isAscii_append, isAscii_hexdigest, Bool.and_true]
  decide

variable {timestamp signature : Option Text} {signingSecret : Text}
  {now toleranceSeconds : Int}

theorem SlackPresented.unique {sent signed sent' signed' : Text}
    (first : SlackPresented library timestamp signature signingSecret now toleranceSeconds
      sent signed)
    (second : SlackPresented library timestamp signature signingSecret now toleranceSeconds
      sent' signed') : sent' = sent ∧ signed' = signed := by
  have times := first.timestamp.symm.trans second.timestamp
  have signatures := first.signature.symm.trans second.signature
  exact ⟨(Option.some.inj times).symm, (Option.some.inj signatures).symm⟩

/-- A request that is not fresh is rejected. -/
theorem verifySlackSignature_of_absent (library : AuthLibrary) (rawBody : Bytes)
    (absent : ∀ sent signed, ¬SlackPresented library timestamp signature signingSecret now
      toleranceSeconds sent signed) :
    ∃ message, verifySlackSignature library rawBody timestamp signature signingSecret now
      toleranceSeconds = .error (.invalidSlackSignature message) := by
  rw [verifySlackSignature]
  cases sent : given timestamp with
  | none => exact ⟨_, rfl⟩
  | some sent' =>
      cases signed : given signature with
      | none => exact ⟨_, rfl⟩
      | some signed' =>
          cases secret : given (some signingSecret) with
          | none => exact ⟨_, rfl⟩
          | some secret' =>
              have configured : signingSecret ≠ [] := by
                rintro rfl
                cases secret
              simp only
              cases read : library.intOfText (String.ofList sent') with
              | none => exact ⟨_, rfl⟩
              | some requestTime =>
                  simp only
                  by_cases stale : toleranceSeconds < |now - requestTime|
                  · exact ⟨_, if_pos stale⟩
                  · exact absurd ⟨sent, signed, configured, requestTime, read,
                      not_lt.mp stale⟩ (absent sent' signed')

/-- A fresh request is encoded and compared. -/
theorem verifySlackSignature_of_presented (rawBody : Bytes)
    {sent signed : Text}
    (presented : SlackPresented library timestamp signature signingSecret now
      toleranceSeconds sent signed) :
    verifySlackSignature library rawBody timestamp signature signingSecret now
        toleranceSeconds =
      match encodeAscii sent with
      | .error error => .error error
      | .ok message =>
          match compareDigest (slackSignature library signingSecret message rawBody)
              signed with
          | .error error => .error error
          | .ok true => .ok ()
          | .ok false =>
              .error (.invalidSlackSignature "Invalid Slack request signature") := by
  obtain ⟨sent, signed, configured, requestTime, read, fresh⟩ := presented
  have secret : given (some signingSecret) = some signingSecret := by
    rw [given, Option.filter_some, if_pos (decide_eq_true configured)]
  rw [verifySlackSignature, sent, signed, secret]
  simp only [read, if_neg (not_lt.mpr fresh)]

/-- Verification of a request of Slack is sound on exactly the readable headers. -/
theorem slack_sound_iff (library : AuthLibrary) (rawBody : Bytes)
    (timestamp signature : Option Text) (signingSecret : Text) (now toleranceSeconds : Int) :
    SlackSound library rawBody timestamp signature signingSecret now toleranceSeconds ↔
      SlackReadable library timestamp signature signingSecret now toleranceSeconds := by
  by_cases carries : ∃ sent signed, SlackPresented library timestamp signature signingSecret
      now toleranceSeconds sent signed
  · obtain ⟨sent, signed, presented⟩ := carries
    have readable_iff : SlackReadable library timestamp signature signingSecret now
        toleranceSeconds ↔ isAscii sent = true ∧ isAscii signed = true := by
      constructor
      · intro readable
        exact readable sent signed presented
      · intro readable sent' signed' presented'
        obtain ⟨rfl, rfl⟩ := presented.unique presented'
        exact readable
    have ran := verifySlackSignature_of_presented rawBody presented
    rw [readable_iff, SlackSound, ran, encodeAscii]
    cases ascii : isAscii sent with
    | false =>
        refine iff_of_false ?_ (fun both => Bool.false_ne_true both.1)
        rintro (⟨accepts, _⟩ | ⟨message, rejects⟩)
        · cases accepts
        · cases rejects
    | true =>
        simp only [if_true]
        generalize expects : slackSignature library signingSecret
          (sent.map fun character => UInt8.ofNat character.toNat) rawBody = expected
        have ascii : isAscii expected = true := by
          rw [← expects]
          exact isAscii_slackSignature _ _ _
        cases compared : compareDigest expected signed with
        | error error =>
            refine iff_of_false ?_ ?_
            · rintro (⟨accepts, _⟩ | ⟨message, rejects⟩)
              · cases accepts
              · cases rejects
                rw [compareDigest] at compared
                split_ifs at compared
                cases compared
            · rintro ⟨_, signedAscii⟩
              rw [compareDigest_ok.mpr ⟨ascii, signedAscii, rfl⟩] at compared
              cases compared
        | ok same =>
            obtain ⟨_, signedAscii, equal⟩ := compareDigest_ok.mp compared
            refine iff_of_true ?_ ⟨trivial, signedAscii⟩
            cases same with
            | false => exact .inr ⟨_, rfl⟩
            | true =>
                exact .inl ⟨rfl, sent, signed, presented,
                  (of_decide_eq_true equal.symm).symm.trans expects.symm⟩
  · have absent : ∀ sent signed, ¬SlackPresented library timestamp signature signingSecret
        now toleranceSeconds sent signed :=
      fun sent signed presented => carries ⟨sent, signed, presented⟩
    exact iff_of_true (.inr (verifySlackSignature_of_absent library rawBody absent))
      (fun sent signed presented => absurd presented (absent sent signed))

end Slack

/-! ## The three verifiers -/

/-- Each verifier rejects or accepts a valid credential exactly where what it is given is
readable; everywhere else an exception escapes it, or nothing is configured to check. -/
theorem headers_sound_iff_readable (library : AuthLibrary) (settings : AuthSettings)
    (now : Int) (requiredScope : Text)
    (osSecurityKeyHeader authorizationHeader basicHeader : Option Text)
    (rawBody : Bytes) (timestamp signature : Option Text) (signingSecret : Text)
    (toleranceSeconds : Int) :
    (ControlPlaneSound library settings now requiredScope osSecurityKeyHeader
          authorizationHeader ↔
        ControlPlaneReadable library settings requiredScope osSecurityKeyHeader
          authorizationHeader) ∧
      (BasicSound library settings basicHeader ↔
        BasicReadable library settings basicHeader) ∧
      (SlackSound library rawBody timestamp signature signingSecret now toleranceSeconds ↔
        SlackReadable library timestamp signature signingSecret now toleranceSeconds) :=
  ⟨controlPlane_sound_iff library settings now requiredScope osSecurityKeyHeader
      authorizationHeader,
    basic_sound_iff library settings basicHeader,
    slack_sound_iff library rawBody timestamp signature signingSecret now toleranceSeconds⟩

/-- A library for requests that carry no token. -/
def plainLibrary : AuthLibrary where
  casefold text := text.map Char.toLower
  hmacSha256 _ message := message
  loads _ := .error .jsonDecodeError
  intOfText := String.toInt?
  str _ := []

/-- A security key of one letter, with an accent in the header: `compare_digest` raises. -/
theorem accented_security_key_raises :
    ¬∀ (library : AuthLibrary) (settings : AuthSettings) (now : Int) (requiredScope : Text)
      (osSecurityKeyHeader authorizationHeader : Option Text),
        ControlPlaneSound library settings now requiredScope osSecurityKeyHeader
          authorizationHeader := by
  intro sound
  obtain ⟨found, ran, _⟩ := sound plainLibrary { osSecurityKey := some ['e'] } 0
    "runtime:read".toList (some ['é']) none
  have raises : authorizeControlPlaneRequest plainLibrary { osSecurityKey := some ['e'] } 0
      "runtime:read".toList (some ['é']) none = .error .typeError := rfl
  rw [raises] at ran
  cases ran

end HeaderAuthentication

end ContractMate
