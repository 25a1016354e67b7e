import Mathlib

/-!
# Statements over tables

Tables of rows whose columns have a text or `NULL`, and the statements that select, delete,
clear and insert rows.  What a list of changes leaves in a table is what the changes of that
table leave.
-/

namespace SqlStatements

variable {Table Column : Type}

/-- A row by its columns. -/
abbrev Row (Column : Type) := Column → Option String

abbrev Tables (Table Column : Type) := Table → List (Row Column)

inductive Condition (Column : Type) where
  /-- `column = ?` -/
  | equals (column : Column) (value : String)
  /-- `column IN (?, …)` -/
  | among (column : Column) (values : List String)
deriving DecidableEq, Repr

/-- `NULL` meets no condition. -/
def Condition.holds (row : Row Column) : Condition Column → Bool
  | equals column value => row column = some value
  | among column values => (row column).any fun text => values.contains text

/-- Conditions that are joined by `AND`. -/
def Meets (conditions : List (Condition Column)) (row : Row Column) : Bool :=
  conditions.all fun condition => condition.holds row

inductive Change (Table Column : Type) where
  | delete (table : Table) (conditions : List (Condition Column))
  /-- `UPDATE … SET column = NULL WHERE …` -/
  | clear (table : Table) (column : Column) (conditions : List (Condition Column))
  | insert (table : Table) (row : Row Column)

namespace Change

def table : Change Table Column → Table
  | delete table _ | clear table _ _ | insert table _ => table

section Effect

variable [DecidableEq Column]

/-- What a change leaves of the rows of its table. -/
def rows (stored : List (Row Column)) : Change Table Column → List (Row Column)
  | delete _ conditions => stored.filter fun row => !Meets conditions row
  | clear _ column conditions =>
      stored.map fun row =>
        if Meets conditions row then Function.update row column none else row
  | insert _ row => stored ++ [row]

/-- The number of rows that a change reports. -/
def affected (stored : List (Row Column)) : Change Table Column → Nat
  | delete _ conditions | clear _ _ conditions => stored.countP (Meets conditions)
  | insert _ _ => 1

variable [DecidableEq Table]

def apply (tables : Tables Table Column) (change : Change Table Column) :
    Tables Table Column :=
  Function.update tables change.table (change.rows (tables change.table))

variable {tables : Tables Table Column} {change : Change Table Column} {other : Table}

@[simp]
theorem apply_self : change.apply tables change.table = change.rows (tables change.table) :=
  Function.update_self _ _ _

@[simp]
theorem apply_of_ne (different : other ≠ change.table) :
    change.apply tables other = tables other :=
  Function.update_of_ne different _ _

/-- Changes of other tables do not matter. -/
theorem foldl_apply (changes : List (Change Table Column)) (tables : Tables Table Column)
    (other : Table) : changes.foldl apply tables other =
      (changes.filter fun change => change.table = other).foldl rows (tables other) := by
  induction changes generalizing tables with
  | nil => rfl
  | cons change changes induction =>
      rw [List.foldl_cons, induction]
      by_cases same : change.table = other
      · subst same
        simp
      · rw [apply_of_ne (Ne.symm same)]
        simp [same]

/-- A change deletes a row of a table. -/
def deletes (other : Table) (row : Row Column) : Change Table Column → Bool
  | delete table conditions => table = other && Meets conditions row
  | clear _ _ _ | insert _ _ => false

/-- Of a table whose rows are only deleted, the rows that no change deletes are left. -/
theorem foldl_deletes (changes : List (Change Table Column)) (tables : Tables Table Column)
    (only : ∀ change ∈ changes, change.table = other →
      ∃ conditions, change = .delete other conditions) :
    changes.foldl apply tables other =
      (tables other).filter fun row => !changes.any fun change => change.deletes other row := by
  induction changes generalizing tables with
  | nil => simp
  | cons change changes induction =>
      rw [List.foldl_cons, induction _ fun later member => only later (.tail _ member)]
      by_cases same : change.table = other
      · obtain ⟨conditions, rfl⟩ := only change List.mem_cons_self same
        change List.filter _ (((Change.delete other conditions).apply tables)
          (Change.delete other conditions).table) = _
        rw [apply_self, rows, List.filter_filter]
        apply List.filter_congr
        intro row _
        simp [deletes, Bool.and_comm]
      · have spared (row : Row Column) : change.deletes other row = false := by
          cases change with
          | delete table conditions =>
              have differs : table ≠ other := same
              simp [deletes, differs]
          | clear => rfl
          | insert => rfl
        rw [apply_of_ne (Ne.symm same)]
        simp [spared]

end Effect

end Change

section Conditions

variable {row : Row Column} {column : Column} {conditions : List (Condition Column)}

@[simp]
theorem meets_nil : Meets [] row = true :=
  rfl

@[simp]
theorem meets_equals {value : String} : Meets (.equals column value :: conditions) row = true ↔
    row column = some value ∧ Meets conditions row = true := by
  simp [Meets, Condition.holds]

@[simp]
theorem meets_among {values : List String} :
    Meets (.among column values :: conditions) row = true ↔
      (∃ value ∈ values, row column = some value) ∧ Meets conditions row = true := by
  rw [Meets, List.all_cons, Bool.and_eq_true]
  refine and_congr_left fun _ => ?_
  cases text : row column <;> simp [Condition.holds, text]

end Conditions

end SqlStatements
