import ContractMate.Base64RoundTrip

/-!
# Encrypted bot tokens

`SlackTokenCipher` stores a bot token as an AES-256-GCM envelope: a version, a dot and the
Base64 of nonce and ciphertext without its padding.  What it decrypts are exactly the
envelopes of tokens under its key.
-/

namespace ContractMate

namespace SlackTokens

open PythonText HeaderAuthentication Base64Text

/-- `AESGCM`: the ciphertext with its tag, and the plaintext of an authentic one. -/
structure AesGcm where
  encrypt : (key nonce plaintext associated : Bytes) → Bytes
  decrypt : (key nonce ciphertext associated : Bytes) → Option Bytes

/-- What AES-GCM promises: the tag has sixteen bytes, and exactly what a key encrypts
under a nonce is authentic under both. -/
structure AesGcm.Authentic (aead : AesGcm) : Prop where
  length_encrypt : ∀ key nonce plaintext associated,
    (aead.encrypt key nonce plaintext associated).length = plaintext.length + 16
  decrypt_iff : ∀ key nonce ciphertext associated plaintext,
    aead.decrypt key nonce ciphertext associated = some plaintext ↔
      ciphertext = aead.encrypt key nonce plaintext associated

/-- `SlackTokenCipher`, by its key. -/
structure SlackTokenCipher where
  key : Bytes
  length_key : key.length = 32

namespace SlackTokenCipher

/-- `_VERSION`. -/
def version : Text :=
  ['v', '1']

/-- `_AAD`. -/
def associatedData : Bytes :=
  encodeUtf8 "samvid:slack-bot-token:v1".toList

/-- `__init__`: the cipher, or the message of a `ValueError`. -/
def new (encodedKey : Text) : Except String SlackTokenCipher :=
  match b64decode true ((padded (strip encodedKey)).map fromUrl) with
  | .error _ =>
      .error "SLACK_TOKEN_ENCRYPTION_KEY must be a base64url-encoded 32-byte key"
  | .ok key =>
      if length_key : key.length = 32 then .ok { key, length_key }
      else .error "SLACK_TOKEN_ENCRYPTION_KEY must decode to exactly 32 bytes"

section Operations

variable (aead : AesGcm) (cipher : SlackTokenCipher)

/-- `encrypt`, with the nonce that is drawn. -/
def encrypt (nonce : Bytes) (token : Text) : Except String Text :=
  if token = [] then .error "Slack bot token cannot be empty"
  else
    let ciphertext := aead.encrypt cipher.key nonce (encodeUtf8 token) associatedData
    .ok (version ++ '.' :: rstripPadding (urlsafeB64encode (nonce ++ ciphertext)))

/-- The steps of `decrypt` whose exceptions are caught: what they return, if anything. -/
def open? (payload : Text) : Option Text :=
  match urlsafeB64decode (padded payload) with
  | .error _ => none
  | .ok decoded =>
      if decoded.length < 29 then none
      else
        match aead.decrypt cipher.key (decoded.take 12) (decoded.drop 12) associatedData with
        | none => none
        | some plaintext => (decodeUtf8 plaintext).toOption

/-- `decrypt`: the token, or the message of a `ValueError`. -/
def decrypt (envelope : Text) : Except String Text :=
  match partitionAt? '.' envelope with
  | none => .error "Unsupported Slack token encryption envelope"
  | some (found, payload) =>
      if found ≠ version ∨ payload = [] then
        .error "Unsupported Slack token encryption envelope"
      else
        match open? aead cipher payload with
        | some token => .ok token
        | none => .error "Encrypted Slack token could not be decrypted"

end Operations

end SlackTokenCipher

open SlackTokenCipher

/-! ## UTF-8 -/

theorem toList_loop (bytes : ByteArray) (index : Nat) (taken : List UInt8) :
    ByteArray.toList.loop bytes index taken =
      taken.reverse ++ bytes.data.toList.drop index := by
  induction index, taken using ByteArray.toList.loop.induct bytes with
  | case1 index taken inside induction =>
      have bound : index < bytes.data.toList.length := inside
      have byte : bytes.get! index = bytes.data.toList[index] :=
        getElem!_pos bytes.data index inside
      rw [ByteArray.toList.loop, if_pos inside, induction, List.drop_eq_getElem_cons bound,
        byte]
      simp
  | case2 index taken outside =>
      have bound : bytes.data.toList.length ≤ index := Nat.le_of_not_lt outside
      rw [ByteArray.toList.loop, if_neg outside, List.drop_eq_nil_of_le bound,
        List.append_nil]

theorem encodeUtf8_eq (text : Text) :
    encodeUtf8 text = (String.ofList text).toByteArray.data.toList := by
  rw [encodeUtf8, ByteArray.toList, toList_loop]
  simp

/-- Decoding takes back what encoding makes of a text, and nothing else. -/
theorem decodeUtf8_eq_ok_iff {bytes : Bytes} {text : Text} :
    decodeUtf8 bytes = .ok text ↔ bytes = encodeUtf8 text := by
  rw [decodeUtf8, String.fromUTF8?, encodeUtf8_eq]
  by_cases valid : ByteArray.IsValidUTF8 ⟨bytes.toArray⟩
  · rw [dif_pos valid]
    constructor
    · intro decoded
      cases decoded
      simp [String.fromUTF8]
    · rintro rfl
      have same : String.fromUTF8 (String.ofList text).toByteArray valid =
          String.ofList text := rfl
      change Except.ok (String.fromUTF8 (String.ofList text).toByteArray valid).toList = _
      rw [same, String.toList_ofList]
  · rw [dif_neg valid]
    constructor
    · intro decoded
      cases decoded
    · rintro rfl
      exact absurd (String.ofList text).isValidUTF8 valid

theorem encodeUtf8_eq_nil_iff {text : Text} : encodeUtf8 text = [] ↔ text = [] := by
  have empty : encodeUtf8 [] = [] := encodeUtf8_eq []
  constructor
  · intro none_
    have same : decodeUtf8 [] = .ok text := decodeUtf8_eq_ok_iff.mpr none_.symm
    rw [decodeUtf8_eq_ok_iff.mpr empty.symm] at same
    cases same
    rfl
  · rintro rfl
    exact empty

/-! ## What is decrypted -/

section Decrypting

variable {aead : AesGcm} {cipher : SlackTokenCipher} {token payload envelope : Text}

theorem open?_eq_some_iff (authentic : aead.Authentic) :
    open? aead cipher payload = some token ↔
      token ≠ [] ∧ ∃ nonce : Bytes, nonce.length = 12 ∧
        urlsafeB64decode (padded payload) =
          .ok (nonce ++ aead.encrypt cipher.key nonce (encodeUtf8 token) associatedData) := by
  have sized (nonce plaintext : Bytes) :
      (aead.encrypt cipher.key nonce plaintext associatedData).length =
        plaintext.length + 16 := authentic.length_encrypt _ _ _ _
  rw [open?]
  cases read : urlsafeB64decode (padded payload) with
  | error error => simp
  | ok decoded =>
      simp only [Except.ok.injEq]
      constructor
      · intro opened
        by_cases short : decoded.length < 29
        · rw [if_pos short] at opened
          cases opened
        · rw [if_neg short] at opened
          cases found : aead.decrypt cipher.key (decoded.take 12) (decoded.drop 12)
              associatedData with
          | none => simp [found] at opened
          | some plaintext =>
              simp only [found] at opened
              cases text : decodeUtf8 plaintext with
              | error error =>
                  rw [text] at opened
                  cases opened
              | ok read =>
                  rw [text] at opened
                  cases opened
                  have encrypted := (authentic.decrypt_iff _ _ _ _ _).mp found
                  have encoded := decodeUtf8_eq_ok_iff.mp text
                  refine ⟨?_, decoded.take 12, ?_, ?_⟩
                  · rintro rfl
                    have length := congrArg List.length encrypted
                    rw [sized, encoded, encodeUtf8_eq_nil_iff.mpr rfl, List.length_nil,
                      List.length_drop] at length
                    omega
                  · rw [List.length_take]
                    omega
                  · rw [← encoded, ← encrypted, List.take_append_drop]
      · rintro ⟨visible, nonce, drawn, rfl⟩
        have long : (encodeUtf8 token).length ≠ 0 := by
          intro none_
          exact visible (encodeUtf8_eq_nil_iff.mp (List.eq_nil_of_length_eq_zero none_))
        have enough : ¬ (nonce ++ aead.encrypt cipher.key nonce (encodeUtf8 token)
            associatedData).length < 29 := by
          rw [List.length_append, sized]
          omega
        have found : aead.decrypt cipher.key nonce
            (aead.encrypt cipher.key nonce (encodeUtf8 token) associatedData)
            associatedData = some (encodeUtf8 token) := (authentic.decrypt_iff _ _ _ _ _).mpr rfl
        rw [if_neg enough, ← drawn, List.take_left, List.drop_left, found]
        simp only [decodeUtf8_eq_ok_iff.mpr rfl]
        rfl

/-- A cipher decrypts exactly the envelopes whose payload decodes to a nonce of twelve bytes
and what its key encrypts under it, and never to an empty token. -/
theorem decrypt_eq_ok_iff (authentic : aead.Authentic) :
    decrypt aead cipher envelope = .ok token ↔
      token ≠ [] ∧ ∃ (payload : Text) (nonce : Bytes),
        envelope = version ++ '.' :: payload ∧ nonce.length = 12 ∧
          urlsafeB64decode (padded payload) =
            .ok (nonce ++ aead.encrypt cipher.key nonce (encodeUtf8 token) associatedData) := by
  have dotless : '.' ∉ version := by decide
  constructor
  · intro decrypted
    rw [decrypt] at decrypted
    cases parts : partitionAt? '.' envelope with
    | none => simp [parts] at decrypted
    | some pair =>
        obtain ⟨found, payload⟩ := pair
        simp only [parts] at decrypted
        by_cases refused : found ≠ version ∨ payload = []
        · rw [if_pos refused] at decrypted
          cases decrypted
        · rw [if_neg refused] at decrypted
          have named : found = version := by
            by_contra other
            exact refused (.inl other)
          cases opened : open? aead cipher payload with
          | none => simp [opened] at decrypted
          | some read =>
              simp only [opened, Except.ok.injEq] at decrypted
              subst decrypted
              obtain ⟨visible, nonce, drawn, decodes⟩ := (open?_eq_some_iff authentic).mp opened
              have whole := (partitionAt?_eq_some.mp parts).1
              rw [named] at whole
              exact ⟨visible, payload, nonce, whole, drawn, decodes⟩
  · rintro ⟨visible, payload, nonce, rfl, drawn, decodes⟩
    have opened := (open?_eq_some_iff authentic).mpr ⟨visible, nonce, drawn, decodes⟩
    have filled : payload ≠ [] := by
      rintro rfl
      have length := congrArg (Except.map List.length) decodes
      have none_ : urlsafeB64decode (padded []) = .ok [] := by decide
      simp [none_, Except.map, drawn] at length
      omega
    rw [decrypt, partitionAt?_append payload dotless]
    simp only [ne_eq, not_true_eq_false, false_or, filled, if_false, opened]

end Decrypting

/-! ## The round trip -/

/-- The spellings of a key in the settings: its Base64 for URLs with or without the padding,
and any white space around it. -/
def Spells (key : Bytes) (text : Text) : Prop :=
  strip text = urlsafeB64encode key ∨ strip text = rstripPadding (urlsafeB64encode key)

theorem new_of_spells {key : Bytes} {text : Text} (length_key : key.length = 32)
    (spells : Spells key text) : SlackTokenCipher.new text = .ok { key, length_key } := by
  have whole : padded (strip text) = urlsafeB64encode key := by
    rcases spells with full | bare
    · rw [full, padded_urlsafeB64encode]
    · rw [bare, padded_rstripPadding]
  rw [SlackTokenCipher.new, whole, b64decode_urlsafeB64encode]
  simp only [length_key, dite_true]

/-- Whatever is encrypted under a key is decrypted by every cipher of the key, however the
settings spell it, and its envelope can stand in a URL. -/
theorem decrypt_encrypt {aead : AesGcm} (authentic : aead.Authentic) {key nonce : Bytes}
    {written read token : Text} (length_key : key.length = 32) (drawn : nonce.length = 12)
    (spells : Spells key written) (spells' : Spells key read) (visible : token ≠ []) :
    ∃ cipher cipher' payload,
      SlackTokenCipher.new written = .ok cipher ∧ SlackTokenCipher.new read = .ok cipher' ∧
        encrypt aead cipher nonce token = .ok (version ++ '.' :: payload) ∧
        (∀ character ∈ payload, isUrlSafe character = true) ∧
        decrypt aead cipher' (version ++ '.' :: payload) = .ok token := by
  refine ⟨{ key, length_key }, { key, length_key },
    rstripPadding (urlsafeB64encode
      (nonce ++ aead.encrypt key nonce (encodeUtf8 token) associatedData)),
    new_of_spells length_key spells, new_of_spells length_key spells', ?_, ?_, ?_⟩
  · rw [encrypt, if_neg visible]
  · intro character member
    exact isUrlSafe_of_mem member
  · apply (decrypt_eq_ok_iff authentic).mpr
    refine ⟨visible, _, nonce, rfl, drawn, ?_⟩
    rw [padded_rstripPadding, urlsafeB64decode_urlsafeB64encode]

/-! ## A key, a nonce and a token -/

def sampleKey : Bytes :=
  (List.range 32).map UInt8.ofNat

def sampleNonce : Bytes :=
  (List.range 12).map UInt8.ofNat

def sampleToken : Text :=
  "xoxb-1".toList

/-- What AES-256-GCM makes of the token. -/
def sampleCiphertext : Bytes :=
  [63, 109, 174, 121, 232, 212, 206, 73, 111, 0, 166, 54, 108, 165, 1, 217, 154, 159, 62, 23,
    142, 79]

/-- A cipher that is AES-256-GCM on the sample, and elsewhere leaves the plaintext legible. -/
def sampleEncrypt (key nonce plaintext associated : Bytes) : Bytes :=
  if key = sampleKey ∧ nonce = sampleNonce ∧ plaintext = encodeUtf8 sampleToken ∧
      associated = associatedData then
    sampleCiphertext
  else plaintext ++ List.replicate 16 0

def sampleAead : AesGcm where
  encrypt := sampleEncrypt
  decrypt key nonce ciphertext associated :=
    [encodeUtf8 sampleToken, ciphertext.rdrop 16].find? fun plaintext =>
      sampleEncrypt key nonce plaintext associated = ciphertext

theorem encodeUtf8_sampleToken : encodeUtf8 sampleToken = [120, 111, 120, 98, 45, 49] := by
  rw [encodeUtf8_eq]
  decide

theorem sampleEncrypt_injective {key nonce plaintext plaintext' associated : Bytes}
    (same : sampleEncrypt key nonce plaintext associated =
      sampleEncrypt key nonce plaintext' associated) : plaintext = plaintext' := by
  have unlike (text : Bytes) : sampleCiphertext ≠ text ++ List.replicate 16 0 := by
    intro equal
    have last := congrArg List.getLast? equal
    simp [sampleCiphertext, List.replicate_succ] at last
  rw [sampleEncrypt, sampleEncrypt] at same
  split_ifs at same with first second second
  · rw [first.2.2.1, second.2.2.1]
  · exact absurd same (unlike _)
  · exact absurd same.symm (unlike _)
  · exact List.append_cancel_right same

theorem authentic_sample : sampleAead.Authentic where
  length_encrypt key nonce plaintext associated := by
    change (sampleEncrypt key nonce plaintext associated).length = _
    rw [sampleEncrypt]
    split_ifs with sampled
    · rw [sampled.2.2.1, encodeUtf8_sampleToken]
      rfl
    · simp
  decrypt_iff key nonce ciphertext associated plaintext := by
    constructor
    · intro found
      have encrypts := List.find?_some found
      exact (of_decide_eq_true encrypts).symm
    · rintro rfl
      change List.find? (fun other => decide (sampleEncrypt key nonce other associated =
        sampleEncrypt key nonce plaintext associated)) _ = _
      by_cases sampled : plaintext = encodeUtf8 sampleToken
      · rw [List.find?_cons_of_pos (by simp [sampled]), sampled]
      · have appended : sampleEncrypt key nonce plaintext associated =
            plaintext ++ List.replicate 16 0 := by
          rw [sampleEncrypt, if_neg]
          exact fun all => sampled all.2.2.1
        have bare : (sampleEncrypt key nonce plaintext associated).rdrop 16 = plaintext := by
          rw [appended]
          simp [List.rdrop]
        have other : ¬ sampleEncrypt key nonce (encodeUtf8 sampleToken) associated =
            sampleEncrypt key nonce plaintext associated :=
          fun same => sampled (sampleEncrypt_injective same).symm
        change List.find? _ [_, (sampleEncrypt key nonce plaintext associated).rdrop 16] = _
        rw [List.find?_cons_of_neg (by simp [other]), bare, List.find?_cons_of_pos (by simp)]

/-- The envelope of the sample token is decrypted. -/
theorem decrypt_sample :
    decrypt sampleAead ⟨sampleKey, rfl⟩
        "v1.AAECAwQFBgcICQoLP22ueejUzklvAKY2bKUB2ZqfPheOTw".toList = .ok sampleToken := by
  apply (decrypt_eq_ok_iff authentic_sample).mpr
  refine ⟨by decide, "AAECAwQFBgcICQoLP22ueejUzklvAKY2bKUB2ZqfPheOTw".toList, sampleNonce,
    by decide, rfl, ?_⟩
  have encrypted : sampleAead.encrypt sampleKey sampleNonce (encodeUtf8 sampleToken)
      associatedData = sampleCiphertext := if_pos ⟨rfl, rfl, rfl, rfl⟩
  rw [encrypted]
  decide

/-- The sample key with its padding and without, and the sample token. -/
theorem decrypt_encrypt_sample :
    ∃ cipher cipher' payload,
      SlackTokenCipher.new "AAECAwQFBgcICQoLDA0ODxAREhMUFRYXGBkaGxwdHh8=".toList =
          .ok cipher ∧
        SlackTokenCipher.new " AAECAwQFBgcICQoLDA0ODxAREhMUFRYXGBkaGxwdHh8 ".toList =
          .ok cipher' ∧
        encrypt sampleAead cipher sampleNonce sampleToken = .ok (version ++ '.' :: payload) ∧
        (∀ character ∈ payload, isUrlSafe character = true) ∧
        decrypt sampleAead cipher' (version ++ '.' :: payload) = .ok sampleToken :=
  decrypt_encrypt authentic_sample (show sampleKey.length = 32 from rfl) rfl
    (.inl (by decide)) (.inr (by decide)) (by decide)

end SlackTokens

end ContractMate
