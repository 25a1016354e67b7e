import Mathlib

/-!
# Scoped reads

Two states of a table which agree on the rows in some scope.  A read that picks rows in
the scope only has the same answer in both.
-/

/-- The two lists have the same rows in the scope, in the same order. -/
def AgreeOn {Row : Type} (own : Row → Bool) (first second : List Row) : Prop :=
  first.filter own = second.filter own

namespace AgreeOn

variable {Row : Type} {own : Row → Bool} {first second : List Row}

theorem mem_iff (agree : AgreeOn own first second) {row : Row} (inScope : own row = true) :
    row ∈ first ↔ row ∈ second := by
  have same : row ∈ first.filter own ↔ row ∈ second.filter own := by rw [agree]
  simpa [List.mem_filter, inScope] using same

/-- A filter that stays in the scope; its condition may look at the state. -/
theorem filter_eq (agree : AgreeOn own first second) {condition condition' : Row → Bool}
    (inside : ∀ row ∈ first, condition row = true → own row = true)
    (inside' : ∀ row ∈ second, condition' row = true → own row = true)
    (same : ∀ row ∈ first, row ∈ second → own row = true →
      condition row = condition' row) :
    first.filter condition = second.filter condition' := by
  have narrowed {rows : List Row} {picks : Row → Bool}
      (within : ∀ row ∈ rows, picks row = true → own row = true) :
      rows.filter picks = (rows.filter own).filter picks := by
    rw [List.filter_filter]
    apply List.filter_congr
    intro row member
    by_cases picked : picks row = true
    · rw [picked, within row member picked]
      rfl
    · rw [Bool.not_eq_true] at picked
      rw [picked]
      rfl
  have shared : first.filter own = second.filter own := agree
  rw [narrowed inside, narrowed inside', ← shared]
  apply List.filter_congr
  intro row member
  obtain ⟨stored, inScope⟩ := List.mem_filter.mp member
  exact same row stored ((agree.mem_iff inScope).mp stored) inScope

theorem find?_eq (agree : AgreeOn own first second) {condition : Row → Bool}
    (inside : ∀ row ∈ first, condition row = true → own row = true)
    (inside' : ∀ row ∈ second, condition row = true → own row = true) :
    first.find? condition = second.find? condition := by
  have same := agree.filter_eq inside inside' fun _ _ _ _ => rfl
  rw [← List.head?_filter, ← List.head?_filter, same]

theorem any_eq (agree : AgreeOn own first second) {condition : Row → Bool}
    (inside : ∀ row ∈ first, condition row = true → own row = true)
    (inside' : ∀ row ∈ second, condition row = true → own row = true) :
    first.any condition = second.any condition := by
  have same := agree.find?_eq inside inside'
  rw [← List.isSome_find?, ← List.isSome_find?, same]

end AgreeOn
