import ContractMate.PythonText

/-!
# Texts in lexicographic order

Texts that begin with fields of fixed widths compare field by field, and decimals that are
padded with zeros to one width compare as their numbers.
-/

open PythonText

namespace LexicographicText

section Fields

variable {α : Type} [LinearOrder α] {first second : List α}

/-- A field decides, or the rest does where two fields agree. -/
theorem append_lt_append_iff (widths : first.length = second.length) (front back : List α) :
    first ++ front < second ++ back ↔ first < second ∨ first = second ∧ front < back := by
  induction first generalizing second with
  | nil =>
      obtain rfl := List.length_eq_zero_iff.mp widths.symm
      simp
  | cons symbol first induction =>
      cases second with
      | nil => cases widths
      | cons other second =>
          have shorter := induction (Nat.succ.inj widths)
          rw [List.cons_append, List.cons_append, List.cons_lt_cons_iff,
            List.cons_lt_cons_iff, shorter, List.cons.injEq]
          tauto

theorem append_le_append_iff (widths : first.length = second.length) (front back : List α) :
    first ++ front ≤ second ++ back ↔ first < second ∨ first = second ∧ front ≤ back := by
  rw [← not_lt, append_lt_append_iff widths.symm, ← not_lt]
  rcases lt_trichotomy first second with less | rfl | greater
  · simp [less, less.not_gt, less.ne']
  · simp
  · simp [greater, greater.not_gt, greater.ne']

/-- The first symbols decide, or the rest does where they agree. -/
theorem cons_le_cons_iff {symbol other : α} (front back : List α) :
    symbol :: front ≤ other :: back ↔ symbol < other ∨ symbol = other ∧ front ≤ back := by
  have widths : [symbol].length = [other].length := rfl
  have fields := append_le_append_iff widths front back
  rw [List.cons_lt_cons_iff, List.cons.injEq] at fields
  simpa using fields

end Fields

/-! ## Padded decimals -/

/-- `f"{number:0{width}d}"`. -/
def padded (width number : Nat) : Text :=
  (Nat.toDigits 10 number).leftpad width '0'

theorem padded_one {number : Nat} (small : number < 10) :
    padded 1 number = [number.digitChar] := by
  rw [padded, Nat.toDigits_of_lt_base small]
  rfl

/-- The last digit of a padded decimal. -/
theorem padded_succ (width number : Nat) :
    padded (width + 2) number = padded (width + 1) (number / 10) ++ [(number % 10).digitChar] := by
  by_cases small : number < 10
  · rw [padded, padded, Nat.toDigits_of_lt_base small, Nat.div_eq_of_lt small,
      Nat.mod_eq_of_lt small]
    simp [List.leftpad, List.replicate_succ']
  · rw [padded, padded, Nat.toDigits_of_base_le (by decide) (Nat.le_of_not_lt small),
      List.leftpad, List.leftpad]
    simp

theorem digitChar_lt_iff {first second : Nat} (firstDigit : first < 10)
    (secondDigit : second < 10) : first.digitChar < second.digitChar ↔ first < second := by
  have digits : ∀ first second : Fin 10,
      first.val.digitChar < second.val.digitChar ↔ first.val < second.val := by
    decide
  exact digits ⟨first, firstDigit⟩ ⟨second, secondDigit⟩

theorem length_padded (width : Nat) {number : Nat} (fits : number < 10 ^ (width + 1)) :
    (padded (width + 1) number).length = width + 1 := by
  induction width generalizing number with
  | zero => rw [padded_one (by simpa using fits)]; rfl
  | succ width induction =>
      have smaller : number / 10 < 10 ^ (width + 1) :=
        Nat.div_lt_of_lt_mul (by rwa [Nat.pow_succ, Nat.mul_comm] at fits)
      rw [padded_succ, List.length_append, induction smaller]
      rfl

/-- Padded decimals are ordered as their numbers. -/
theorem padded_lt_iff (width : Nat) {first second : Nat} (firstFits : first < 10 ^ (width + 1))
    (secondFits : second < 10 ^ (width + 1)) :
    padded (width + 1) first < padded (width + 1) second ↔ first < second := by
  induction width generalizing first second with
  | zero =>
      have firstDigit : first < 10 := by simpa using firstFits
      have secondDigit : second < 10 := by simpa using secondFits
      rw [padded_one firstDigit, padded_one secondDigit, List.cons_lt_cons_iff,
        digitChar_lt_iff firstDigit secondDigit]
      simp
  | succ width induction =>
      have smaller {number : Nat} (fits : number < 10 ^ (width + 2)) :
          number / 10 < 10 ^ (width + 1) :=
        Nat.div_lt_of_lt_mul (by rwa [Nat.pow_succ, Nat.mul_comm] at fits)
      have front := induction (smaller firstFits) (smaller secondFits)
      have back := induction (smaller secondFits) (smaller firstFits)
      have widths : (padded (width + 1) (first / 10)).length =
          (padded (width + 1) (second / 10)).length := by
        rw [length_padded width (smaller firstFits), length_padded width (smaller secondFits)]
      have digit := digitChar_lt_iff (Nat.mod_lt first (by decide : 0 < 10))
        (Nat.mod_lt second (by decide : 0 < 10))
      rw [padded_succ, padded_succ, append_lt_append_iff widths, front,
        List.cons_lt_cons_iff, digit]
      have same : padded (width + 1) (first / 10) = padded (width + 1) (second / 10) ↔
          first / 10 = second / 10 := by
        constructor
        · intro equal
          have notLess := mt front.mpr (by simp [equal])
          have notGreater := mt back.mpr (by simp [equal])
          omega
        · intro equal
          rw [equal]
      rw [same]
      simp only [List.not_lt_nil, and_false, or_false]
      omega

theorem padded_inj (width : Nat) {first second : Nat} (firstFits : first < 10 ^ (width + 1))
    (secondFits : second < 10 ^ (width + 1)) :
    padded (width + 1) first = padded (width + 1) second ↔ first = second := by
  constructor
  · intro equal
    have notLess := mt (padded_lt_iff width firstFits secondFits).mpr (by simp [equal])
    have notGreater := mt (padded_lt_iff width secondFits firstFits).mpr (by simp [equal])
    omega
  · intro equal
    rw [equal]

end LexicographicText
