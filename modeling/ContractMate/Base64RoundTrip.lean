import ContractMate.HeaderAuthentication
import Mathlib

/-!
# The round trip of Base64

`binascii.b2a_base64` beside the decoder.  What is encoded is decoded again, in both modes
of the decoder, in the alphabet for URLs and with the padding taken off and put back.
-/

namespace ContractMate

namespace Base64Text

open PythonText HeaderAuthentication

/-! ## Encoding -/

/-- The character of a digit. -/
def digitOf (value : Nat) : Char :=
  base64Alphabet.getD value '='

/-- `binascii.b2a_base64`, without a newline. -/
def b2aBase64 : Bytes → Text
  | [] => []
  | [first] => [digitOf (first.toNat / 4), digitOf (first.toNat % 4 * 16), '=', '=']
  | [first, second] =>
      [digitOf (first.toNat / 4), digitOf (first.toNat % 4 * 16 + second.toNat / 16),
        digitOf (second.toNat % 16 * 4), '=']
  | first :: second :: third :: bytes =>
      digitOf (first.toNat / 4) :: digitOf (first.toNat % 4 * 16 + second.toNat / 16) ::
        digitOf (second.toNat % 16 * 4 + third.toNat / 64) :: digitOf (third.toNat % 64) ::
          b2aBase64 bytes

/-- From the standard alphabet to that of URLs. -/
def toUrl (character : Char) : Char :=
  if character = '+' then '-' else if character = '/' then '_' else character

/-- From the alphabet of URLs to the standard one. -/
def fromUrl (character : Char) : Char :=
  if character = '-' then '+' else if character = '_' then '/' else character

/-- `base64.urlsafe_b64encode`. -/
def urlsafeB64encode (bytes : Bytes) : Text :=
  (b2aBase64 bytes).map toUrl

/-- `text.rstrip("=")`. -/
def rstripPadding (text : Text) : Text :=
  text.rdropWhile (· = '=')

/-- The text with the padding that its length asks for. -/
def padded (text : Text) : Text :=
  text ++ List.replicate ((4 - text.length % 4) % 4) '='

/-- The characters of Base64 for URLs. -/
def isUrlSafe (character : Char) : Bool :=
  character.isAlphanum || character = '-' || character = '_'

/-! ## Digits -/

theorem digit_facts : ∀ value < 64,
    base64Alphabet.idxOf (digitOf value) = value ∧ digitOf value ≠ '=' ∧
      (digitOf value).val < 128 ∧ fromUrl (toUrl (digitOf value)) = digitOf value ∧
        isUrlSafe (toUrl (digitOf value)) = true := by
  decide

theorem idxOf_digitOf {value : Nat} (small : value < 64) :
    base64Alphabet.idxOf (digitOf value) = value :=
  (digit_facts value small).1

theorem digitOf_ne_padding {value : Nat} (small : value < 64) : digitOf value ≠ '=' :=
  (digit_facts value small).2.1

section Decoding

variable {strict : Bool} {left value : Nat} {text : Text}

theorem a2bBase64From_first (small : value < 64) :
    a2bBase64From strict 0 left 0 false (digitOf value :: text) =
      a2bBase64From strict 1 value 0 false text := by
  simp [a2bBase64From, digitOf_ne_padding small, idxOf_digitOf small, small]

theorem a2bBase64From_second (small : value < 64) :
    a2bBase64From strict 1 left 0 false (digitOf value :: text) =
      (a2bBase64From strict 2 (value % 16) 0 false text).map
        (UInt8.ofNat (left * 4 + value / 16) :: ·) := by
  simp [a2bBase64From, digitOf_ne_padding small, idxOf_digitOf small, small]

theorem a2bBase64From_third (small : value < 64) :
    a2bBase64From strict 2 left 0 false (digitOf value :: text) =
      (a2bBase64From strict 3 (value % 4) 0 false text).map
        (UInt8.ofNat (left * 16 + value / 4) :: ·) := by
  simp [a2bBase64From, digitOf_ne_padding small, idxOf_digitOf small, small]

theorem a2bBase64From_fourth (small : value < 64) :
    a2bBase64From strict 3 left 0 false (digitOf value :: text) =
      (a2bBase64From strict 0 0 0 false text).map
        (UInt8.ofNat (left * 64 + value) :: ·) := by
  simp [a2bBase64From, digitOf_ne_padding small, idxOf_digitOf small, small]

/-- The padding behind one byte, and behind two. -/
theorem a2bBase64From_signs :
    a2bBase64From strict 2 left 0 false ['=', '='] = some [] ∧
      a2bBase64From strict 3 left 0 false ['='] = some [] := by
  constructor <;> simp [a2bBase64From]

end Decoding

theorem ofNat_eq_of_toNat {byte : UInt8} {value : Nat} (same : value = byte.toNat) :
    UInt8.ofNat value = byte := by
  rw [same, UInt8.ofNat_toNat]

/-- Both modes of the decoder give back what was encoded. -/
theorem a2bBase64From_b2aBase64 (strict : Bool) (bytes : Bytes) :
    a2bBase64From strict 0 0 0 false (b2aBase64 bytes) = some bytes := by
  induction bytes using b2aBase64.induct with
  | case1 => rfl
  | case2 first =>
      have bound := first.toNat_lt
      rw [b2aBase64, a2bBase64From_first (by omega), a2bBase64From_second (by omega)]
      have whole : UInt8.ofNat (first.toNat / 4 * 4 + first.toNat % 4 * 16 / 16) = first :=
        ofNat_eq_of_toNat (by omega)
      rw [a2bBase64From_signs.1, Option.map_some, whole]
  | case3 first second =>
      have bound := first.toNat_lt
      have bound' := second.toNat_lt
      rw [b2aBase64, a2bBase64From_first (by omega), a2bBase64From_second (by omega),
        a2bBase64From_third (by omega)]
      have whole : UInt8.ofNat (first.toNat / 4 * 4 +
          (first.toNat % 4 * 16 + second.toNat / 16) / 16) = first :=
        ofNat_eq_of_toNat (by omega)
      have whole' : UInt8.ofNat ((first.toNat % 4 * 16 + second.toNat / 16) % 16 * 16 +
          second.toNat % 16 * 4 / 4) = second :=
        ofNat_eq_of_toNat (by omega)
      rw [a2bBase64From_signs.2, Option.map_some, whole', Option.map_some, whole]
  | case4 first second third bytes induction =>
      have bound := first.toNat_lt
      have bound' := second.toNat_lt
      have bound'' := third.toNat_lt
      rw [b2aBase64, a2bBase64From_first (by omega), a2bBase64From_second (by omega),
        a2bBase64From_third (by omega), a2bBase64From_fourth (by omega), induction]
      have whole : UInt8.ofNat (first.toNat / 4 * 4 +
          (first.toNat % 4 * 16 + second.toNat / 16) / 16) = first :=
        ofNat_eq_of_toNat (by omega)
      have whole' : UInt8.ofNat ((first.toNat % 4 * 16 + second.toNat / 16) % 16 * 16 +
          (second.toNat % 16 * 4 + third.toNat / 64) / 4) = second :=
        ofNat_eq_of_toNat (by omega)
      have whole'' : UInt8.ofNat ((second.toNat % 16 * 4 + third.toNat / 64) % 4 * 64 +
          third.toNat % 64) = third :=
        ofNat_eq_of_toNat (by omega)
      simp only [Option.map_some, whole, whole', whole'']

/-- What is encoded does not begin with padding. -/
theorem head?_b2aBase64 (bytes : Bytes) : (b2aBase64 bytes).head? ≠ some '=' := by
  have digit (first : UInt8) : digitOf (first.toNat / 4) ≠ '=' := by
    have bound := first.toNat_lt
    exact digitOf_ne_padding (by omega)
  induction bytes using b2aBase64.induct with
  | case1 => simp [b2aBase64]
  | case2 first | case3 first second | case4 first second third bytes induction =>
      simpa [b2aBase64] using digit first

/-! ## Padding -/

/-- An encoded text is a body of digits and the padding that its length asks for. -/
structure Body (bytes : Bytes) (body : Text) : Prop where
  encoded : b2aBase64 bytes = padded body
  digits : ∀ character ∈ body, ∃ value < 64, character = digitOf value

theorem exists_body (bytes : Bytes) : ∃ body, Body bytes body := by
  induction bytes using b2aBase64.induct with
  | case1 => exact ⟨[], rfl, by simp⟩
  | case2 first =>
      have bound := first.toNat_lt
      refine ⟨[digitOf (first.toNat / 4), digitOf (first.toNat % 4 * 16)], rfl, ?_⟩
      simp only [List.mem_cons, List.not_mem_nil, or_false]
      rintro character (rfl | rfl)
      · exact ⟨_, by omega, rfl⟩
      · exact ⟨_, by omega, rfl⟩
  | case3 first second =>
      have bound := first.toNat_lt
      have bound' := second.toNat_lt
      refine ⟨[digitOf (first.toNat / 4), digitOf (first.toNat % 4 * 16 + second.toNat / 16),
        digitOf (second.toNat % 16 * 4)], rfl, ?_⟩
      simp only [List.mem_cons, List.not_mem_nil, or_false]
      rintro character (rfl | rfl | rfl)
      · exact ⟨_, by omega, rfl⟩
      · exact ⟨_, by omega, rfl⟩
      · exact ⟨_, by omega, rfl⟩
  | case4 first second third bytes induction =>
      have bound := first.toNat_lt
      have bound' := second.toNat_lt
      have bound'' := third.toNat_lt
      obtain ⟨body, encoded, digits⟩ := induction
      refine ⟨digitOf (first.toNat / 4) ::
        digitOf (first.toNat % 4 * 16 + second.toNat / 16) ::
        digitOf (second.toNat % 16 * 4 + third.toNat / 64) :: digitOf (third.toNat % 64) ::
          body, ?_, ?_⟩
      · rw [b2aBase64, encoded]
        simp [padded]
        omega
      · simp only [List.mem_cons]
        rintro character (rfl | rfl | rfl | rfl | member)
        · exact ⟨_, by omega, rfl⟩
        · exact ⟨_, by omega, rfl⟩
        · exact ⟨_, by omega, rfl⟩
        · exact ⟨_, by omega, rfl⟩
        · exact digits character member

/-- Padding comes off a text that has none of its own. -/
theorem rstripPadding_padded {text : Text} (plain : '=' ∉ text) :
    rstripPadding (padded text) = text := by
  have kept : text.reverse.dropWhile (fun character => decide (character = '=')) =
      text.reverse := by
    cases reversed : text.reverse with
    | nil => rfl
    | cons character rest =>
        have member : character ∈ text := by
          rw [← List.mem_reverse, reversed]
          exact List.mem_cons_self
        have visible : character ≠ '=' := by
          rintro rfl
          exact plain member
        simp [visible]
  rw [rstripPadding, padded, List.rdropWhile, List.reverse_append, List.reverse_replicate,
    List.dropWhile_append_of_pos (by simp), kept, List.reverse_reverse]

theorem map_padded {change : Char → Char} (keeps : change '=' = '=') (text : Text) :
    (padded text).map change = padded (text.map change) := by
  simp [padded, keeps]

/-- What an encoded text without its padding is: a body in the alphabet for URLs. -/
theorem rstripPadding_urlsafeB64encode {bytes : Bytes} {body : Text}
    (is : Body bytes body) :
    rstripPadding (urlsafeB64encode bytes) = body.map toUrl := by
  have plain : '=' ∉ body.map toUrl := by
    intro member
    obtain ⟨character, there, same⟩ := List.mem_map.mp member
    obtain ⟨value, small, rfl⟩ := is.digits character there
    have safe := (digit_facts value small).2.2.2.2
    rw [same] at safe
    exact absurd safe (by decide)
  rw [urlsafeB64encode, is.encoded, map_padded (by decide), rstripPadding_padded plain]

/-- The padding can be taken off and put back. -/
theorem padded_rstripPadding (bytes : Bytes) :
    padded (rstripPadding (urlsafeB64encode bytes)) = urlsafeB64encode bytes := by
  obtain ⟨body, is⟩ := exists_body bytes
  rw [rstripPadding_urlsafeB64encode is, urlsafeB64encode, is.encoded,
    map_padded (by decide)]

theorem isUrlSafe_of_mem {bytes : Bytes} {character : Char}
    (member : character ∈ rstripPadding (urlsafeB64encode bytes)) :
    isUrlSafe character = true := by
  obtain ⟨body, is⟩ := exists_body bytes
  rw [rstripPadding_urlsafeB64encode is] at member
  obtain ⟨digit, there, rfl⟩ := List.mem_map.mp member
  obtain ⟨value, small, rfl⟩ := is.digits digit there
  exact (digit_facts value small).2.2.2.2

/-- An encoded text has its padding. -/
theorem padded_urlsafeB64encode (bytes : Bytes) :
    padded (urlsafeB64encode bytes) = urlsafeB64encode bytes := by
  obtain ⟨body, is⟩ := exists_body bytes
  have whole : (urlsafeB64encode bytes).length % 4 = 0 := by
    rw [urlsafeB64encode, List.length_map, is.encoded, padded, List.length_append,
      List.length_replicate]
    omega
  rw [padded, whole]
  exact List.append_nil _

/-- Base64 for URLs is decoded in both modes. -/
theorem b64decode_urlsafeB64encode (validate : Bool) (bytes : Bytes) :
    b64decode validate ((urlsafeB64encode bytes).map fromUrl) = .ok bytes := by
  obtain ⟨body, is⟩ := exists_body bytes
  have back : (urlsafeB64encode bytes).map fromUrl = b2aBase64 bytes := by
    rw [urlsafeB64encode, is.encoded, map_padded (by decide), map_padded (by decide),
      List.map_map]
    congr 1
    conv_rhs => rw [← List.map_id body]
    apply List.map_congr_left
    intro character member
    obtain ⟨value, small, rfl⟩ := is.digits character member
    exact (digit_facts value small).2.2.2.1
  have ascii : isAscii (b2aBase64 bytes) = true := by
    have digits : isAscii body = true := by
      rw [isAscii, List.all_eq_true]
      intro character member
      obtain ⟨value, small, rfl⟩ := is.digits character member
      exact decide_eq_true (digit_facts value small).2.2.1
    rw [is.encoded, padded, isAscii_append, digits, isAscii, List.all_replicate]
    simp
  rw [back, b64decode, if_pos ascii, a2bBase64]
  simp [head?_b2aBase64, a2bBase64From_b2aBase64]

theorem urlsafeB64decode_urlsafeB64encode (bytes : Bytes) :
    urlsafeB64decode (urlsafeB64encode bytes) = .ok bytes :=
  b64decode_urlsafeB64encode false bytes

end Base64Text

end ContractMate
