import ContractMate.JsonRoundTrip

/-!
# Numbers of JSON

The grammar of RFC 8259, with sign, fraction and exponent.  Whole numbers follow it, and
whatever follows it is a word of a JSON text.
-/

namespace JsonText

/-- Digits, perhaps with a sign in front of them. -/
def isSigned : List Char → Bool
  | '+' :: digits => digits != [] && digits.all Char.isDigit
  | '-' :: digits => digits != [] && digits.all Char.isDigit
  | digits => digits != [] && digits.all Char.isDigit

/-- `exp`, or nothing. -/
def isExponent : List Char → Bool
  | [] => true
  | 'e' :: exponent => isSigned exponent
  | 'E' :: exponent => isSigned exponent
  | _ => false

/-- `frac` and `exp`, or either, or nothing. -/
def isFraction : List Char → Bool
  | '.' :: fraction =>
      fraction.takeWhile Char.isDigit != [] && isExponent (fraction.dropWhile Char.isDigit)
  | exponent => isExponent exponent

/-- `int` without its sign, and what may follow it. -/
def isUnsigned (token : List Char) : Bool :=
  (readNat (token.takeWhile Char.isDigit)).isSome && isFraction (token.dropWhile Char.isDigit)

/-- A number. -/
def isNumber : List Char → Bool
  | '-' :: token => isUnsigned token
  | token => isUnsigned token

/-- A reader of numbers, from the value of what follows the grammar. -/
def numberWith {N : Type} (value : List Char → N) (token : List Char) : Option N :=
  if isNumber token then some (value token) else none

/-! ## Numbers are words -/

theorem token_of_digits {digits : List Char} (all : digits.all Char.isDigit = true) :
    ∀ character ∈ digits, isTokenChar character = true := by
  intro character member
  have digit : character.isDigit = true := List.all_eq_true.mp all character member
  simp [isTokenChar, Char.isAlphanum, digit]

variable {token : List Char}

theorem token_of_isSigned (signed : isSigned token = true) :
    ∀ character ∈ token, isTokenChar character = true := by
  rw [isSigned.eq_def] at signed
  split at signed
  case h_3 => exact token_of_digits (Bool.and_eq_true_iff.mp signed).2
  all_goals
    have digits := token_of_digits (Bool.and_eq_true_iff.mp signed).2
    intro character member
    rcases List.mem_cons.mp member with rfl | member
    · decide
    · exact digits character member

theorem token_of_isExponent (exponent : isExponent token = true) :
    ∀ character ∈ token, isTokenChar character = true := by
  rw [isExponent.eq_def] at exponent
  split at exponent
  case h_1 =>
    intro character member
    cases member
  case h_4 => simp at exponent
  all_goals
    have digits := token_of_isSigned exponent
    intro character member
    rcases List.mem_cons.mp member with rfl | member
    · decide
    · exact digits character member

/-- Digits and what stands after them. -/
theorem token_of_parts
    (rest : ∀ character ∈ token.dropWhile Char.isDigit, isTokenChar character = true) :
    ∀ character ∈ token, isTokenChar character = true := by
  intro character member
  rw [← List.takeWhile_append_dropWhile (p := Char.isDigit) (l := token)] at member
  rcases List.mem_append.mp member with digit | other
  · exact token_of_digits List.all_takeWhile character digit
  · exact rest character other

theorem token_of_isFraction (fraction : isFraction token = true) :
    ∀ character ∈ token, isTokenChar character = true := by
  rw [isFraction.eq_def] at fraction
  split at fraction
  · have digits := token_of_parts
      (token_of_isExponent (Bool.and_eq_true_iff.mp fraction).2)
    intro character member
    rcases List.mem_cons.mp member with rfl | member
    · decide
    · exact digits character member
  · exact token_of_isExponent fraction

theorem token_of_isUnsigned (unsigned : isUnsigned token = true) :
    ∀ character ∈ token, isTokenChar character = true :=
  token_of_parts (token_of_isFraction (Bool.and_eq_true_iff.mp unsigned).2)

/-- An unsigned number starts with a digit. -/
theorem head_of_isUnsigned (unsigned : isUnsigned token = true) :
    ∃ digit rest, token = digit :: rest ∧ digit.isDigit = true := by
  cases token with
  | nil => exact absurd unsigned (by decide)
  | cons first rest =>
      refine ⟨first, rest, rfl, ?_⟩
      by_contra other
      simp [isUnsigned, other, readNat] at unsigned

/-- What follows the grammar of numbers is a word. -/
theorem isToken_of_isNumber (number : isNumber token = true) :
    IsToken token := by
  have start : ∃ first rest, token = first :: rest ∧
      (first = '-' ∨ first.isDigit = true) := by
    rw [isNumber.eq_def] at number
    split at number
    · exact ⟨_, _, rfl, .inl rfl⟩
    · obtain ⟨digit, rest, same, isDigit⟩ := head_of_isUnsigned number
      exact ⟨digit, rest, same, .inr isDigit⟩
  obtain ⟨first, rest, rfl, sign | digit⟩ := start
  · subst sign
    refine ⟨nofun, ?_, nofun, nofun, nofun⟩
    intro character member
    rcases List.mem_cons.mp member with rfl | member
    · decide
    · exact token_of_isUnsigned number character member
  · have noSign : first ≠ '-' := by
      rintro rfl
      simp at digit
    have unsigned : isUnsigned (first :: rest) = true := by
      rw [isNumber.eq_def] at number
      split at number
      · rename_i same
        exact absurd (List.cons.inj same).1 noSign
      · exact number
    have noLetter {letter : Char} (other : letter.isDigit = false) {word : List Char} :
        first :: rest ≠ letter :: word := by
      intro same
      rw [(List.cons.inj same).1, other] at digit
      simp at digit
    exact ⟨nofun, token_of_isUnsigned unsigned, noLetter (by decide), noLetter (by decide),
      noLetter (by decide)⟩

/-! ## Whole numbers -/

theorem isUnsigned_toDigits (value : Nat) : isUnsigned (Nat.toDigits 10 value) = true := by
  have digits : ∀ character ∈ Nat.toDigits 10 value, character.isDigit = true :=
    fun _ member => Nat.isDigit_of_mem_toDigits (by decide) (by decide) member
  rw [isUnsigned, List.takeWhile_eq_self_iff.mpr digits, readNat_toDigits,
    List.dropWhile_eq_nil_iff.mpr digits]
  rfl

theorem isNumber_of_isUnsigned (unsigned : isUnsigned token = true) :
    isNumber token = true := by
  rw [isNumber.eq_def]
  split
  · obtain ⟨digit, rest, head, isDigit⟩ := head_of_isUnsigned unsigned
    rw [← (List.cons.inj head).1] at isDigit
    simp at isDigit
  · exact unsigned

theorem isNumber_writeInt (value : Int) : isNumber (writeInt value) = true := by
  have unsigned := isUnsigned_toDigits value.natAbs
  rw [writeInt]
  split_ifs with negative
  · exact unsigned
  · exact isNumber_of_isUnsigned unsigned

end JsonText
