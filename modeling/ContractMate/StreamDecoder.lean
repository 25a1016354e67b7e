import Mathlib

/-!
# A decoder of UTF-8 streams

The decoder of the Encoding Standard, as `TextDecoder` runs it with `stream: true`: bytes
are decoded as they come, what is no UTF-8 is replaced, and a byte order mark in front of
the text is dropped.  However the bytes of a text are cut, the text comes out.
-/

namespace StreamDecoder

/-- What the decoder remembers of an unfinished character. -/
structure Utf8State where
  codePoint : Nat := 0
  bytesSeen : Nat := 0
  bytesNeeded : Nat := 0
  lowerBoundary : Nat := 0x80
  upperBoundary : Nat := 0xBF
deriving DecidableEq, Repr

/-- Between two characters. -/
def Utf8State.start : Utf8State := {}

/-- U+FFFD. -/
def replacement : Char :=
  Char.ofNat 0xFFFD

def byteOrderMark : Char :=
  Char.ofNat 0xFEFF

/-- A byte between two characters. -/
def lead (byte : Nat) : Utf8State × List Char :=
  if byte ≤ 0x7F then (.start, [Char.ofNat byte])
  else if 0xC2 ≤ byte ∧ byte ≤ 0xDF then
    (⟨byte % 0x20, 0, 1, 0x80, 0xBF⟩, [])
  else if 0xE0 ≤ byte ∧ byte ≤ 0xEF then
    (⟨byte % 0x10, 0, 2, if byte = 0xE0 then 0xA0 else 0x80,
      if byte = 0xED then 0x9F else 0xBF⟩, [])
  else if 0xF0 ≤ byte ∧ byte ≤ 0xF4 then
    (⟨byte % 0x08, 0, 3, if byte = 0xF0 then 0x90 else 0x80,
      if byte = 0xF4 then 0x8F else 0xBF⟩, [])
  else (.start, [replacement])

/-- A byte, and the characters that it completes.  One that cannot follow is read again
as the start of a character. -/
def next (state : Utf8State) (byte : Nat) : Utf8State × List Char :=
  if state.bytesNeeded = 0 then lead byte
  else if byte < state.lowerBoundary ∨ state.upperBoundary < byte then
    ((lead byte).1, replacement :: (lead byte).2)
  else
    let codePoint := state.codePoint * 0x40 + byte % 0x40
    if state.bytesSeen + 1 = state.bytesNeeded then (.start, [Char.ofNat codePoint])
    else (⟨codePoint, state.bytesSeen + 1, state.bytesNeeded, 0x80, 0xBF⟩, [])

def consume (state : Utf8State) : List UInt8 → Utf8State × List Char
  | [] => (state, [])
  | byte :: bytes =>
      let (state, front) := next state byte.toNat
      let (state, text) := consume state bytes
      (state, front ++ text)

/-- A character that the end of the bytes cuts short. -/
def Utf8State.flush (state : Utf8State) : List Char :=
  if state.bytesNeeded = 0 then [] else [replacement]

structure TextDecoder where
  utf8 : Utf8State := .start
  bomSeen : Bool := false
deriving DecidableEq, Repr

/-- The first character of the whole text is dropped if it is the byte order mark. -/
def serialize (bomSeen : Bool) : List Char → Bool × List Char
  | [] => (bomSeen, [])
  | first :: text =>
      (true, if bomSeen = false ∧ first = byteOrderMark then text else first :: text)

namespace TextDecoder

/-- `decode(value, { stream: true })`. -/
def decode (decoder : TextDecoder) (bytes : List UInt8) : TextDecoder × List Char :=
  let (utf8, text) := consume decoder.utf8 bytes
  let (bomSeen, text) := serialize decoder.bomSeen text
  ({ utf8, bomSeen }, text)

/-- `decode(undefined, { stream: false })`. -/
def finish (decoder : TextDecoder) : List Char :=
  (serialize decoder.bomSeen decoder.utf8.flush).2

/-- The texts of the pieces, with what the end adds. -/
def decodeAll (decoder : TextDecoder) : List (List UInt8) → List (List Char)
  | [] => [decoder.finish]
  | piece :: pieces =>
      let (decoder, text) := decoder.decode piece
      text :: decoder.decodeAll pieces

end TextDecoder

/-! ## Characters -/

theorem consume_append (state : Utf8State) (first second : List UInt8) :
    consume state (first ++ second) =
      ((consume (consume state first).1 second).1,
        (consume state first).2 ++ (consume (consume state first).1 second).2) := by
  induction first generalizing state with
  | nil => rfl
  | cons byte first induction =>
      simp only [List.cons_append, consume, induction, List.append_assoc]

theorem next_start (byte : Nat) : next .start byte = lead byte :=
  rfl

/-- A byte that starts a longer character. -/
theorem consume_lead {value : Nat} (small : value < 0x100) {state : Utf8State}
    (starts : lead value = (state, [])) (bytes : List UInt8) :
    consume .start (UInt8.ofNat value :: bytes) = consume state bytes := by
  have byte : (UInt8.ofNat value).toNat = value := by
    rw [UInt8.toNat_ofNat']
    exact Nat.mod_eq_of_lt small
  rw [consume, byte, next_start, starts]
  rfl

section Tail

variable {codePoint seen needed lower upper part : Nat}

theorem next_tail (small : part < 0x40) (inside : needed ≠ 0)
    (within : lower ≤ part + 0x80 ∧ part + 0x80 ≤ upper) :
    next ⟨codePoint, seen, needed, lower, upper⟩ (UInt8.ofNat (part + 0x80)).toNat =
      if seen + 1 = needed then (.start, [Char.ofNat (codePoint * 0x40 + part)])
      else (⟨codePoint * 0x40 + part, seen + 1, needed, 0x80, 0xBF⟩, []) := by
  have byte : (UInt8.ofNat (part + 0x80)).toNat = part + 0x80 := by
    rw [UInt8.toNat_ofNat']
    exact Nat.mod_eq_of_lt (by omega)
  have low : (part + 0x80) % 0x40 = part := by omega
  have follows : ¬(part + 0x80 < lower ∨ upper < part + 0x80) := by omega
  rw [next, byte, if_neg inside, if_neg follows, low]

/-- A byte inside a character. -/
theorem consume_tail (small : part < 0x40) (more : seen + 1 < needed)
    (within : lower ≤ part + 0x80 ∧ part + 0x80 ≤ upper) (bytes : List UInt8) :
    consume ⟨codePoint, seen, needed, lower, upper⟩ (UInt8.ofNat (part + 0x80) :: bytes) =
      consume ⟨codePoint * 0x40 + part, seen + 1, needed, 0x80, 0xBF⟩ bytes := by
  rw [consume, next_tail small (by omega) within, if_neg (by omega)]
  rfl

/-- The last byte of a character. -/
theorem consume_last (small : part < 0x40) (last : seen + 1 = needed)
    (within : lower ≤ part + 0x80 ∧ part + 0x80 ≤ upper) :
    consume ⟨codePoint, seen, needed, lower, upper⟩ [UInt8.ofNat (part + 0x80)] =
      (.start, [Char.ofNat (codePoint * 0x40 + part)]) := by
  rw [consume, next_tail small (by omega) within, if_pos last]
  rfl

end Tail

theorem lead_two {byte : Nat} (low : 0xC2 ≤ byte) (high : byte ≤ 0xDF) :
    lead byte = (⟨byte % 0x20, 0, 1, 0x80, 0xBF⟩, []) := by
  rw [lead, if_neg (by omega), if_pos ⟨low, high⟩]

theorem lead_three {byte : Nat} (low : 0xE0 ≤ byte) (high : byte ≤ 0xEF) :
    lead byte = (⟨byte % 0x10, 0, 2, if byte = 0xE0 then 0xA0 else 0x80,
      if byte = 0xED then 0x9F else 0xBF⟩, []) := by
  rw [lead, if_neg (by omega), if_neg (by omega), if_pos ⟨low, high⟩]

theorem lead_four {byte : Nat} (low : 0xF0 ≤ byte) (high : byte ≤ 0xF4) :
    lead byte = (⟨byte % 0x08, 0, 3, if byte = 0xF0 then 0x90 else 0x80,
      if byte = 0xF4 then 0x8F else 0xBF⟩, []) := by
  rw [lead, if_neg (by omega), if_neg (by omega), if_neg (by omega), if_pos ⟨low, high⟩]

/-- The bytes of a character are decoded to it. -/
theorem consume_utf8EncodeChar (character : Char) :
    consume .start (String.utf8EncodeChar character) = (.start, [character]) := by
  have value : Char.ofNat character.toNat = character := Char.ofNat_toNat character
  have valid : character.toNat < 0xD800 ∨
      0xDFFF < character.toNat ∧ character.toNat < 0x110000 := character.valid
  have same : character.val.toNat = character.toNat := rfl
  generalize character.toNat = code at value valid same
  rw [String.utf8EncodeChar, same]
  by_cases one : code ≤ 0x7F
  · have byte : (UInt8.ofNat code).toNat = code := by
      rw [UInt8.toNat_ofNat']
      exact Nat.mod_eq_of_lt (by omega)
    rw [if_pos one, consume, byte, next_start, lead, if_pos one, value]
    rfl
  rw [if_neg one]
  by_cases two : code ≤ 0x7FF
  · have whole : (code / 64 % 0x20 + 0xC0) % 0x20 * 0x40 + code % 0x40 = code := by omega
    rw [if_pos two, consume_lead (by omega) (lead_two (by omega) (by omega)),
      consume_last (by omega) rfl (by omega), whole, value]
  rw [if_neg two]
  by_cases three : code ≤ 0xFFFF
  · have whole : ((code / 4096 % 0x10 + 0xE0) % 0x10 * 0x40 + code / 64 % 0x40) * 0x40 +
        code % 0x40 = code := by omega
    rw [if_pos three, consume_lead (by omega) (lead_three (by omega) (by omega)),
      consume_tail (by omega) (by decide) (by split_ifs <;> omega),
      consume_last (by omega) rfl (by omega), whole, value]
  · have whole : (((code / 262144 % 0x08 + 0xF0) % 0x08 * 0x40 + code / 4096 % 0x40) * 0x40 +
        code / 64 % 0x40) * 0x40 + code % 0x40 = code := by omega
    rw [if_neg three, consume_lead (by omega) (lead_four (by omega) (by omega)),
      consume_tail (by omega) (by decide) (by split_ifs <;> omega),
      consume_tail (by omega) (by decide) (by omega),
      consume_last (by omega) rfl (by omega), whole, value]

/-! ## Texts -/

/-- The bytes of a text. -/
def utf8 (text : List Char) : List UInt8 :=
  text.flatMap String.utf8EncodeChar

theorem consume_utf8 (text : List Char) : consume .start (utf8 text) = (.start, text) := by
  induction text with
  | nil => rfl
  | cons character text induction =>
      have first := consume_utf8EncodeChar character
      rw [utf8, List.flatMap_cons, consume_append, first, ← utf8, induction]
      rfl

theorem serialize_append (bomSeen : Bool) (first second : List Char) :
    serialize bomSeen (first ++ second) =
      ((serialize (serialize bomSeen first).1 second).1,
        (serialize bomSeen first).2 ++ (serialize (serialize bomSeen first).1 second).2) := by
  cases first with
  | nil => rfl
  | cons character first =>
      cases second with
      | nil => simp [serialize]
      | cons next second =>
          simp only [List.cons_append, serialize]
          split_ifs <;> simp_all

/-- The pieces give what the decoder makes of all their bytes. -/
theorem decodeAll_flatten (decoder : TextDecoder) (pieces : List (List UInt8)) :
    (decoder.decodeAll pieces).flatten =
      (serialize decoder.bomSeen ((consume decoder.utf8 pieces.flatten).2 ++
        (consume decoder.utf8 pieces.flatten).1.flush)).2 := by
  induction pieces generalizing decoder with
  | nil => simp [TextDecoder.decodeAll, TextDecoder.finish, consume]
  | cons piece pieces induction =>
      rw [TextDecoder.decodeAll, List.flatten_cons, induction, List.flatten_cons,
        consume_append, List.append_assoc, serialize_append decoder.bomSeen]
      rfl

/-- However the bytes of a text are cut, the text comes out, unless a byte order mark
stands in front of it. -/
theorem decodeAll_utf8 {text : List Char} (noMark : text.head? ≠ some byteOrderMark)
    {pieces : List (List UInt8)} (bytes : pieces.flatten = utf8 text) :
    (TextDecoder.decodeAll {} pieces).flatten = text := by
  rw [decodeAll_flatten, bytes, consume_utf8]
  cases text with
  | nil => rfl
  | cons first text =>
      have other : first ≠ byteOrderMark := fun mark => noMark (by simp [mark])
      simp [serialize, Utf8State.flush, Utf8State.start, other]

end StreamDecoder
