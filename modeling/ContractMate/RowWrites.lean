import ContractMate.RowTable
import ContractMate.TransactionDiscipline

/-!
# Transactions on keyed rows

A transaction on one table writes rows under its locks on their keys.  What it commits
then leaves every row that it holds no lock on.
-/

namespace RowTable

variable {Row Key : Type} {key : Row → Key} [DecidableEq Key]

/-- The table with a row written under its key. -/
def put (table : RowTable key) (row : Row) : RowTable key :=
  table.upsert row
    ⟨fun old => if key old = key row then row else old, fun old => by
      split
      · rename_i same
        exact same.symm
      · rfl⟩

theorem find?_put (table : RowTable key) (row : Row) (value : Key) :
    (table.put row).find? value = if key row = value then some row else table.find? value := by
  rw [put, find?_upsert]
  by_cases same : key row = value
  · rw [if_pos same, if_pos same]
    cases found : table.find? value with
    | none => rfl
    | some old =>
        have named := key_of_find? found
        simp [named, same]
  · rw [if_neg same, if_neg same]

variable {table : RowTable key} {rows : List Row}

/-- A row under a new key comes last. -/
theorem rows_put {row : Row} (absent : table.find? (key row) = none) :
    (table.put row).rows = table.rows ++ [row] := by
  obtain ⟨inserted, success⟩ := Option.isSome_iff_exists.mp (insert?_isSome_iff.mpr absent)
  rw [put, upsert, success, Option.getD_some]
  exact rows_of_insert? success

/-- Rows under other keys stay. -/
theorem find?_foldl_put {value : Key}
    (others : ∀ row ∈ rows, key row ≠ value) (table : RowTable key) :
    (rows.foldl put table).find? value = table.find? value := by
  induction rows generalizing table with
  | nil => rfl
  | cons row rows induction =>
      rw [List.foldl_cons, induction fun other member => others other (by simp [member]),
        find?_put, if_neg (others row (by simp))]

/-- The last row written under a key stays. -/
theorem find?_foldl_put_of_mem {row : Row} (distinct : (rows.map key).Nodup)
    (member : row ∈ rows) (table : RowTable key) :
    (rows.foldl put table).find? (key row) = some row := by
  induction rows generalizing table with
  | nil => cases member
  | cons first rows induction =>
      obtain ⟨alone, distinct⟩ := List.nodup_cons.mp distinct
      rw [List.foldl_cons]
      rcases List.mem_cons.mp member with rfl | later
      · rw [find?_foldl_put, find?_put, if_pos rfl]
        intro other member same
        exact alone (same ▸ List.mem_map_of_mem member)
      · exact induction distinct later (table.put first)

theorem mem_put {row other : Row} (member : other ∈ (table.put row).rows) :
    other ∈ table.rows ∨ other = row := by
  have found := find?_of_mem member
  rw [find?_put] at found
  split_ifs at found with same
  · exact .inr (Option.some.inj found).symm
  · exact .inl (mem_of_find? found)

/-- Nothing but the rows written is new. -/
theorem mem_foldl_put {other : Row}
    (member : other ∈ (rows.foldl put table).rows) : other ∈ table.rows ∨ other ∈ rows := by
  induction rows generalizing table with
  | nil => exact .inl member
  | cons row rows induction =>
      rcases induction member with before | later
      · rcases mem_put before with old | rfl
        · exact .inl old
        · exact .inr (by simp)
      · exact .inr (List.mem_cons_of_mem _ later)

/-- Every key written has a row. -/
theorem find?_isSome_foldl_put {value : Key}
    (written : value ∈ rows.map key ∨ (table.find? value).isSome = true) :
    ((rows.foldl put table).find? value).isSome = true := by
  induction rows generalizing table with
  | nil => simpa using written
  | cons row rows induction =>
      apply induction
      rw [find?_put]
      rcases written with inRows | found
      · rcases List.mem_cons.mp inRows with rfl | later
        · exact .inr (by simp)
        · exact .inl later
      · right
        split
        · rfl
        · exact found

end RowTable
