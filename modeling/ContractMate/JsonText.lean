import Mathlib

/-!
# JSON texts

Values are written in ASCII, with an escape for every other character, and any text
is read as RFC 8259 has it.  The numbers are of any type: the writer shows them and
the reader recognises them.
-/

namespace JsonText

/-- A JSON value with numbers of some type. -/
inductive Value (N : Type) where
  | null
  | bool (value : Bool)
  | number (value : N)
  | text (value : String)
  | list (items : List (Value N))
  | object (fields : List (String × Value N))

/-! ## Writing -/

/-- The four hexadecimal digits of a UTF-16 unit. -/
def unitDigits (unit : Nat) : List Char :=
  [Nat.digitChar (unit / 4096 % 16), Nat.digitChar (unit / 256 % 16),
    Nat.digitChar (unit / 16 % 16), Nat.digitChar (unit % 16)]

/-- `\uXXXX` for a unit. -/
def unicodeEscape (unit : Nat) : List Char :=
  '\\' :: 'u' :: unitDigits unit

/-- The units of a character outside the basic plane. -/
def highUnit (character : Char) : Nat :=
  0xD800 + (character.toNat - 0x10000) / 0x400

def lowUnit (character : Char) : Nat :=
  0xDC00 + (character.toNat - 0x10000) % 0x400

/-- A character inside a quoted text. -/
def escape (character : Char) : List Char :=
  if character = '"' then ['\\', '"']
  else if character = '\\' then ['\\', '\\']
  else if character = '\n' then ['\\', 'n']
  else if character = '\r' then ['\\', 'r']
  else if character = '\t' then ['\\', 't']
  else if character.toNat = 0x08 then ['\\', 'b']
  else if character.toNat = 0x0C then ['\\', 'f']
  else if 0x20 ≤ character.toNat ∧ character.toNat < 0x7F then [character]
  else if character.toNat < 0x10000 then unicodeEscape character.toNat
  else unicodeEscape (highUnit character) ++ unicodeEscape (lowUnit character)

/-- A text with its closing quotation mark. -/
def closed (text : List Char) : List Char :=
  text.flatMap escape ++ ['"']

def quoted (text : String) : List Char :=
  '"' :: closed text.toList

/-- White space between tokens. -/
def isBlank (character : Char) : Bool :=
  character = ' ' || character = '\t' || character = '\n' || character = '\r'

/-- The blanks that a writer puts after its commas and colons. -/
structure Spacing where
  afterItem : List Char
  afterKey : List Char
  item_blank : ∀ character ∈ afterItem, isBlank character = true
  key_blank : ∀ character ∈ afterKey, isBlank character = true

/-- Separators without blanks. -/
def Spacing.compact : Spacing where
  afterItem := []
  afterKey := []
  item_blank := nofun
  key_blank := nofun

section Writing

variable {N : Type} (spacing : Spacing) (showNumber : N → List Char)

mutual

def write : Value N → List Char
  | .null => ['n', 'u', 'l', 'l']
  | .bool true => ['t', 'r', 'u', 'e']
  | .bool false => ['f', 'a', 'l', 's', 'e']
  | .number value => showNumber value
  | .text value => quoted value
  | .list [] => ['[', ']']
  | .list (item :: items) => '[' :: (write item ++ writeItems items)
  | .object [] => ['{', '}']
  | .object ((key, value) :: fields) =>
      '{' :: (quoted key ++ ':' :: (spacing.afterKey ++ (write value ++ writeFields fields)))

/-- The items after the first, with the closing bracket. -/
def writeItems : List (Value N) → List Char
  | [] => [']']
  | item :: items => ',' :: (spacing.afterItem ++ (write item ++ writeItems items))

/-- The fields after the first, with the closing brace. -/
def writeFields : List (String × Value N) → List Char
  | [] => ['}']
  | (key, value) :: fields =>
      ',' :: (spacing.afterItem ++ (quoted key ++
        ':' :: (spacing.afterKey ++ (write value ++ writeFields fields))))

end

end Writing

/-- A whole number. -/
def writeInt (value : Int) : List Char :=
  if value < 0 then '-' :: Nat.toDigits 10 value.natAbs else Nat.toDigits 10 value.natAbs

/-! ## Reading -/

def skipBlanks (text : List Char) : List Char :=
  text.dropWhile isBlank

def hexValue (digit : Char) : Option Nat :=
  if '0' ≤ digit ∧ digit ≤ '9' then some (digit.toNat - '0'.toNat)
  else if 'a' ≤ digit ∧ digit ≤ 'f' then some (digit.toNat - 'a'.toNat + 10)
  else if 'A' ≤ digit ∧ digit ≤ 'F' then some (digit.toNat - 'A'.toNat + 10)
  else none

/-- The four digits of a `\u` escape. -/
def readUnit : List Char → Option (Nat × List Char)
  | first :: second :: third :: fourth :: rest => do
      let first ← hexValue first
      let second ← hexValue second
      let third ← hexValue third
      let fourth ← hexValue fourth
      some (4096 * first + 256 * second + 16 * third + fourth, rest)
  | _ => none

/-- A `\u` escape, or two of them that are a surrogate pair.  A lone surrogate is no
character and is refused. -/
def readUnicode (text : List Char) : Option (Char × List Char) := do
  let (unit, rest) ← readUnit text
  if 0xD800 ≤ unit ∧ unit < 0xDC00 then
    match rest with
    | '\\' :: 'u' :: rest => do
        let (low, rest) ← readUnit rest
        if 0xDC00 ≤ low ∧ low < 0xE000 then
          some (Char.ofNat (0x10000 + (unit - 0xD800) * 0x400 + (low - 0xDC00)), rest)
        else none
    | _ => none
  else if 0xDC00 ≤ unit ∧ unit < 0xE000 then none
  else some (Char.ofNat unit, rest)

/-- What stands after a backslash. -/
def readEscape : List Char → Option (Char × List Char)
  | '"' :: rest => some ('"', rest)
  | '\\' :: rest => some ('\\', rest)
  | '/' :: rest => some ('/', rest)
  | 'b' :: rest => some ('\x08', rest)
  | 'f' :: rest => some ('\x0c', rest)
  | 'n' :: rest => some ('\n', rest)
  | 'r' :: rest => some ('\r', rest)
  | 't' :: rest => some ('\t', rest)
  | 'u' :: rest => readUnicode rest
  | _ => none

/-- The characters of a quoted text, as far as the closing quotation mark. -/
def readClosed : Nat → List Char → Option (List Char × List Char)
  | 0, _ => none
  | _ + 1, [] => none
  | fuel + 1, character :: rest =>
      if character = '"' then some ([], rest)
      else if character = '\\' then do
        let (character, rest) ← readEscape rest
        let (text, rest) ← readClosed fuel rest
        some (character :: text, rest)
      else if character.toNat < 0x20 then none
      else do
        let (text, rest) ← readClosed fuel rest
        some (character :: text, rest)

/-- A token that is no text and no punctuation is made of these. -/
def isTokenChar (character : Char) : Bool :=
  character.isAlphanum || character = '-' || character = '+' || character = '.'

/-- Digits without a leading zero. -/
def readNat (digits : List Char) : Option Nat :=
  if digits ≠ [] ∧ digits.all Char.isDigit = true ∧
      (digits.head? = some '0' → digits.length = 1) then
    some (Nat.ofDigitChars 10 digits 0)
  else none

/-- A whole number, without fraction and exponent. -/
def readInt : List Char → Option Int
  | '-' :: digits => (readNat digits).map fun value => -Int.ofNat value
  | digits => (readNat digits).map Int.ofNat

/-- Fields as a dictionary keeps them: the last value of a key, in its first place. -/
def insertField {α : Type} (fields : List (String × α)) (key : String) (value : α) :
    List (String × α) :=
  if key ∈ fields.map Prod.fst then
    fields.map fun field => if field.1 = key then (key, value) else field
  else fields ++ [(key, value)]

def dictionary {α : Type} (fields : List (String × α)) : List (String × α) :=
  fields.foldl (fun built field => insertField built field.1 field.2) []

section Reading

variable {N : Type} (readNumber : List Char → Option N)

mutual

def readValue : Nat → List Char → Option (Value N × List Char)
  | 0, _ => none
  | fuel + 1, text =>
      match skipBlanks text with
      | '"' :: rest => do
          let (text, rest) ← readClosed fuel rest
          some (.text (String.ofList text), rest)
      | '[' :: rest =>
          match skipBlanks rest with
          | ']' :: rest => some (.list [], rest)
          | _ => do
              let (items, rest) ← readItems fuel rest
              some (.list items, rest)
      | '{' :: rest =>
          match skipBlanks rest with
          | '}' :: rest => some (.object [], rest)
          | _ => do
              let (fields, rest) ← readFields fuel rest
              some (.object (dictionary fields), rest)
      | other =>
          let token := other.takeWhile isTokenChar
          let rest := other.dropWhile isTokenChar
          if token = ['n', 'u', 'l', 'l'] then some (.null, rest)
          else if token = ['t', 'r', 'u', 'e'] then some (.bool true, rest)
          else if token = ['f', 'a', 'l', 's', 'e'] then some (.bool false, rest)
          else do
            let value ← readNumber token
            some (.number value, rest)

def readItems : Nat → List Char → Option (List (Value N) × List Char)
  | 0, _ => none
  | fuel + 1, text => do
      let (item, rest) ← readValue fuel text
      match skipBlanks rest with
      | ']' :: rest => some ([item], rest)
      | ',' :: rest => do
          let (items, rest) ← readItems fuel rest
          some (item :: items, rest)
      | _ => none

def readFields : Nat → List Char → Option (List (String × Value N) × List Char)
  | 0, _ => none
  | fuel + 1, text =>
      match skipBlanks text with
      | '"' :: rest => do
          let (key, rest) ← readClosed fuel rest
          match skipBlanks rest with
          | ':' :: rest => do
              let (value, rest) ← readValue fuel rest
              match skipBlanks rest with
              | '}' :: rest => some ([(String.ofList key, value)], rest)
              | ',' :: rest => do
                  let (fields, rest) ← readFields fuel rest
                  some ((String.ofList key, value) :: fields, rest)
              | _ => none
          | _ => none
      | _ => none

end

/-- A whole text, blanks around its value allowed. -/
def read (text : List Char) : Option (Value N) :=
  match readValue readNumber (2 * text.length + 1) text with
  | some (value, rest) => if skipBlanks rest = [] then some value else none
  | none => none

end Reading

/-! ## Texts -/

theorem hexValue_digitChar {value : Nat} (small : value < 16) :
    hexValue (Nat.digitChar value) = some value := by
  have all : ∀ value < 16, hexValue (Nat.digitChar value) = some value := by decide
  exact all value small

theorem readUnit_unitDigits {unit : Nat} (small : unit < 0x10000) (rest : List Char) :
    readUnit (unitDigits unit ++ rest) = some (unit, rest) := by
  have digit (value : Nat) :
      hexValue (Nat.digitChar (value % 16)) = some (value % 16) :=
    hexValue_digitChar (Nat.mod_lt _ (by decide))
  simp only [unitDigits, List.cons_append, List.nil_append, readUnit, digit,
    Option.bind_eq_bind, Option.bind_some, Option.some.injEq, Prod.mk.injEq, and_true]
  omega

/-- The code point of a character is no surrogate. -/
theorem toNat_cases (character : Char) :
    character.toNat < 0xD800 ∨ 0xE000 ≤ character.toNat ∧ character.toNat < 0x110000 := by
  have valid := character.valid
  simp only [UInt32.isValidChar, Nat.isValidChar] at valid
  simp only [Char.toNat]
  omega

theorem readUnicode_basic {character : Char} (basic : character.toNat < 0x10000)
    (rest : List Char) :
    readUnicode (unitDigits character.toNat ++ rest) = some (character, rest) := by
  have outside := toNat_cases character
  have noHigh : ¬ (0xD800 ≤ character.toNat ∧ character.toNat < 0xDC00) := by omega
  have noLow : ¬ (0xDC00 ≤ character.toNat ∧ character.toNat < 0xE000) := by omega
  simp only [readUnicode, readUnit_unitDigits basic, Option.bind_eq_bind,
    Option.bind_some, if_neg noHigh, if_neg noLow, Char.ofNat_toNat]

theorem readUnicode_units {high low : Nat} (isHigh : 0xD800 ≤ high ∧ high < 0xDC00)
    (isLow : 0xDC00 ≤ low ∧ low < 0xE000) (rest : List Char) :
    readUnicode (unitDigits high ++ (unicodeEscape low ++ rest)) =
      some (Char.ofNat (0x10000 + (high - 0xD800) * 0x400 + (low - 0xDC00)), rest) := by
  have readHigh := readUnit_unitDigits (show high < 0x10000 by omega)
    (unicodeEscape low ++ rest)
  have readLow := readUnit_unitDigits (show low < 0x10000 by omega) rest
  rw [readUnicode, readHigh]
  simp only [Option.bind_eq_bind, Option.bind_some, if_pos isHigh, unicodeEscape,
    List.cons_append, readLow, if_pos isLow]

theorem readUnicode_pair {character : Char} (beyond : 0x10000 ≤ character.toNat)
    (rest : List Char) :
    readUnicode (unitDigits (highUnit character) ++
        (unicodeEscape (lowUnit character) ++ rest)) =
      some (character, rest) := by
  have outside := toNat_cases character
  have high : 0xD800 ≤ highUnit character ∧ highUnit character < 0xDC00 := by
    simp only [highUnit]
    omega
  have low : 0xDC00 ≤ lowUnit character ∧ lowUnit character < 0xE000 := by
    simp only [lowUnit]
    omega
  have joined : 0x10000 + (highUnit character - 0xD800) * 0x400 +
      (lowUnit character - 0xDC00) = character.toNat := by
    simp only [highUnit, lowUnit]
    omega
  rw [readUnicode_units high low, joined, Char.ofNat_toNat]

/-- A written character is read back. -/
theorem readClosed_escape (fuel : Nat) (character : Char) (rest : List Char) :
    readClosed (fuel + 1) (escape character ++ rest) =
      (readClosed fuel rest).map fun read => (character :: read.1, read.2) := by
  have escaped (tail : List Char) (read : readEscape tail = some (character, rest)) :
      readClosed (fuel + 1) ('\\' :: tail) =
        (readClosed fuel rest).map fun read => (character :: read.1, read.2) := by
    rw [readClosed, if_neg (by decide), if_pos rfl, read]
    cases later : readClosed fuel rest <;> simp [later]
  rw [escape]
  split_ifs with quote backslash newline carriage tab backspace formFeed plain basic
  · exact escaped _ (by subst quote; rfl)
  · exact escaped _ (by subst backslash; rfl)
  · exact escaped _ (by subst newline; rfl)
  · exact escaped _ (by subst carriage; rfl)
  · exact escaped _ (by subst tab; rfl)
  · have same : character = '\x08' := Char.toNat_inj.mp backspace
    exact escaped _ (by subst same; rfl)
  · have same : character = '\x0c' := Char.toNat_inj.mp formFeed
    exact escaped _ (by subst same; rfl)
  · rw [List.cons_append, List.nil_append, readClosed, if_neg quote, if_neg backslash,
      if_neg (by omega)]
    cases readClosed fuel rest <;> rfl
  · exact escaped _ (readUnicode_basic basic rest)
  · rw [List.append_assoc]
    exact escaped _ (readUnicode_pair (by omega) rest)

/-- A written text is read back. -/
theorem readClosed_closed {fuel : Nat} {text : List Char} (enough : text.length < fuel)
    (rest : List Char) :
    readClosed fuel (closed text ++ rest) = some (text, rest) := by
  induction text generalizing fuel with
  | nil =>
      obtain ⟨fuel, rfl⟩ := Nat.exists_eq_add_of_lt enough
      rfl
  | cons character text induction =>
      cases fuel with
      | zero => omega
      | succ fuel =>
          have later := induction (Nat.lt_of_succ_lt_succ enough)
          rw [closed, List.flatMap_cons, List.append_assoc, List.append_assoc,
            readClosed_escape]
          rw [closed, List.append_assoc] at later
          rw [later]
          rfl

theorem escape_ne_nil (character : Char) : escape character ≠ [] := by
  rw [escape]
  split_ifs <;> simp [unicodeEscape]

theorem length_lt_closed (text : List Char) : text.length < (closed text).length := by
  induction text with
  | nil => decide
  | cons character text induction =>
      have first := List.length_pos_iff.mpr (escape_ne_nil character)
      simp only [closed, List.flatMap_cons, List.length_append, List.length_cons] at induction ⊢
      omega


/-! ## Blanks and tokens -/

theorem skipBlanks_append {blanks : List Char}
    (blank : ∀ character ∈ blanks, isBlank character = true) (text : List Char) :
    skipBlanks (blanks ++ text) = skipBlanks text := by
  induction blanks with
  | nil => rfl
  | cons first blanks induction =>
      have visible := induction fun character member => blank character (.tail _ member)
      rw [List.cons_append, skipBlanks, List.dropWhile_cons_of_pos (blank first (.head _))]
      exact visible

theorem skipBlanks_cons {first : Char} (visible : isBlank first = false)
    (text : List Char) : skipBlanks (first :: text) = first :: text := by
  rw [skipBlanks, List.dropWhile_cons_of_neg (by simp [visible])]

/-- Nothing that continues a token stands at the front. -/
def Ends (rest : List Char) : Prop :=
  ∀ character ∈ rest.head?, isTokenChar character = false

theorem ends_cons {first : Char} (other : isTokenChar first = false) (rest : List Char) :
    Ends (first :: rest) := by
  intro character member
  cases member
  exact other

theorem ends_nil : Ends [] := by
  intro character member
  cases member

theorem splitToken {token rest : List Char}
    (inside : ∀ character ∈ token, isTokenChar character = true) (ends : Ends rest) :
    (token ++ rest).takeWhile isTokenChar = token ∧
      (token ++ rest).dropWhile isTokenChar = rest := by
  induction token with
  | nil =>
      cases rest with
      | nil => exact ⟨rfl, rfl⟩
      | cons first rest =>
          have other := ends first rfl
          simp [other]
  | cons first token induction =>
      have here := inside first (.head _)
      obtain ⟨taken, dropped⟩ := induction fun character member =>
        inside character (.tail _ member)
      simp [here, taken, dropped]

/-! ## Whole numbers -/

theorem toDigits_head {value : Nat} (positive : 0 < value) :
    (Nat.toDigits 10 value).head? ≠ some '0' := by
  induction value using Nat.strongRecOn with
  | ind value induction =>
      by_cases small : value < 10
      · rw [Nat.toDigits_of_lt_base small]
        have digits : ∀ value < 10, 0 < value → Nat.digitChar value ≠ '0' := by decide
        simpa using digits value small positive
      · rw [Nat.toDigits_of_base_le (by decide) (by omega)]
        have earlier := induction (value / 10) (by omega) (by omega)
        obtain ⟨first, rest, digits⟩ := List.exists_cons_of_ne_nil
          (show Nat.toDigits 10 (value / 10) ≠ [] from Nat.toDigits_ne_nil)
        rw [digits] at earlier ⊢
        exact earlier

theorem readNat_toDigits (value : Nat) :
    readNat (Nat.toDigits 10 value) = some value := by
  have digits : (Nat.toDigits 10 value).all Char.isDigit = true :=
    List.all_eq_true.mpr fun character member =>
      Nat.isDigit_of_mem_toDigits (by decide) (by decide) member
  have leading : (Nat.toDigits 10 value).head? = some '0' →
      (Nat.toDigits 10 value).length = 1 := by
    intro zero
    rcases Nat.eq_zero_or_pos value with rfl | positive
    · rfl
    · exact absurd zero (toDigits_head positive)
  rw [readNat, if_pos ⟨Nat.toDigits_ne_nil, digits, leading⟩,
    Nat.ofDigitChars_ten_toDigits]

/-- A whole number is read back. -/
theorem readInt_writeInt (value : Int) : readInt (writeInt value) = some value := by
  rw [writeInt]
  split_ifs with negative
  · have same : -Int.ofNat value.natAbs = value := by
      simp only [Int.ofNat_eq_natCast]
      omega
    rw [readInt, readNat_toDigits, Option.map_some, same]
  · have same : Int.ofNat value.natAbs = value := by
      simp only [Int.ofNat_eq_natCast]
      omega
    obtain ⟨first, rest, digits⟩ := List.exists_cons_of_ne_nil
      (show Nat.toDigits 10 value.natAbs ≠ [] from Nat.toDigits_ne_nil)
    have member : first ∈ Nat.toDigits 10 value.natAbs := by simp [digits]
    have digit := Nat.isDigit_of_mem_toDigits (by decide) (by decide) member
    have read := readNat_toDigits value.natAbs
    rw [digits] at read ⊢
    rw [readInt, read, Option.map_some, same]
    rintro tail sign
    cases sign
    simp at digit

end JsonText
