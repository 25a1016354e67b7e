import Mathlib

/-!
# Prefixes within a budget

Items taken from the front of a list while their sizes fit into a budget.  What is taken
is as much of the end of the list as fits only if everything fits.
-/

namespace BudgetedPrefix

variable {Item : Type} (size : Item → Nat)

/-- The sizes, summed up. -/
def total (items : List Item) : Nat :=
  (items.map size).sum

/-- The items up to the first one that does not fit. -/
def taken : List Item → Nat → List Item
  | [], _ => []
  | item :: rest, budget =>
      if budget < size item then []
      else item :: taken rest (budget - size item)

/-- A suffix within the budget that cannot be made longer. -/
structure LongestSuffix (budget : Nat) (kept items : List Item) : Prop where
  suffix : kept <:+ items
  fits : total size kept ≤ budget
  longest : ∀ longer, longer <:+ items → kept.length < longer.length →
    budget < total size longer

variable {size}

@[simp]
theorem total_cons (item : Item) (rest : List Item) :
    total size (item :: rest) = size item + total size rest :=
  List.sum_cons

theorem prefix_taken (items : List Item) (budget : Nat) : taken size items budget <+: items := by
  induction items generalizing budget with
  | nil => exact List.nil_prefix
  | cons item rest induction =>
      rw [taken]
      split
      · exact List.nil_prefix
      · rw [List.cons_prefix_cons]
        exact ⟨rfl, induction _⟩

theorem total_taken_le (items : List Item) (budget : Nat) :
    total size (taken size items budget) ≤ budget := by
  induction items generalizing budget with
  | nil => exact Nat.zero_le budget
  | cons item rest induction =>
      rw [taken]
      split
      · exact Nat.zero_le budget
      · have later := induction (budget - size item)
        rw [total_cons]
        omega

/-- Everything is taken if it fits. -/
theorem taken_eq_self {items : List Item} {budget : Nat} (fits : total size items ≤ budget) :
    taken size items budget = items := by
  induction items generalizing budget with
  | nil => rfl
  | cons item rest induction =>
      rw [total_cons] at fits
      rw [taken, if_neg (by omega), induction (by omega)]

/-- A prefix of a list without repetitions that is a suffix too is empty or all of it. -/
theorem eq_of_prefix_of_suffix {kept items : List Item} (distinct : items.Nodup)
    (front : kept <+: items) (back : kept <:+ items) (nonempty : kept ≠ []) :
    kept = items := by
  obtain ⟨skipped, split⟩ := back
  cases skipped with
  | nil => exact split
  | cons first skipped =>
      obtain ⟨head, tail, rfl⟩ := List.exists_cons_of_ne_nil nonempty
      obtain ⟨rest, joined⟩ := front
      have sameHead : first = head := by
        rw [← split] at joined
        exact (List.cons.inj joined).1.symm
      rw [← split, List.cons_append, List.nodup_cons] at distinct
      exact absurd (sameHead ▸ by simp : first ∈ skipped ++ head :: tail) distinct.1

/-- If the first item fits and none is repeated, the items taken from the front are the
longest suffix just when all items fit. -/
theorem longestSuffix_taken_iff {items : List Item} {budget : Nat} (distinct : items.Nodup)
    (first : ∀ item ∈ items.head?, size item ≤ budget) :
    LongestSuffix size budget (taken size items budget) items ↔
      total size items ≤ budget := by
  constructor
  · intro keeps
    cases items with
    | nil => exact Nat.zero_le budget
    | cons item rest =>
        have fits : ¬ budget < size item := Nat.not_lt.mpr (first item rfl)
        have nonempty : taken size (item :: rest) budget ≠ [] := by
          rw [taken, if_neg fits]
          exact List.cons_ne_nil _ _
        have all := eq_of_prefix_of_suffix distinct (prefix_taken _ _) keeps.suffix nonempty
        rw [← all]
        exact total_taken_le _ _
  · intro fits
    rw [taken_eq_self fits]
    constructor
    · exact List.suffix_rfl
    · exact fits
    · intro longer suffix more
      have bound := suffix.length_le
      omega

end BudgetedPrefix
