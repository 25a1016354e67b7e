import Mathlib

/-!
# Keyed row tables

A relational table with a primary key, kept as its rows in insertion order
together with the fact that no two rows share a key.  `find?` is the view by
primary key that proofs use; `updateWhere` is `UPDATE … WHERE`, `insert?` an
`INSERT` that fails on a key conflict, `insertIgnore` its `DO NOTHING` form and
`upsert` its `DO UPDATE` form.
-/

/-- Rows whose keys are pairwise different. -/
structure RowTable {Row Key : Type} (key : Row → Key) where
  rows : List Row
  keys_nodup : (rows.map key).Nodup

namespace RowTable

variable {Row Key : Type} {key : Row → Key}

@[ext]
theorem ext {first second : RowTable key}
    (same : first.rows = second.rows) : first = second := by
  cases first
  cases second
  cases same
  rfl

/-- The `SET` part of an update: it may not touch the primary key. -/
structure Change {Row Key : Type} (key : Row → Key) where
  apply : Row → Row
  keeps : ∀ row, key (apply row) = key row

/-- The table without rows. -/
def empty : RowTable key where
  rows := []
  keys_nodup := List.nodup_nil

instance : Inhabited (RowTable key) := ⟨empty⟩

/-- `SELECT … WHERE`, in insertion order. -/
def select (table : RowTable key) (condition : Row → Bool) : List Row :=
  table.rows.filter condition

/-- The number of rows an `UPDATE … WHERE` reports. -/
def affected (table : RowTable key) (condition : Row → Bool) : Nat :=
  table.rows.countP condition

/-- `UPDATE … SET … WHERE`. -/
def updateWhere (table : RowTable key) (condition : Row → Bool) (change : Change key) :
    RowTable key where
  rows := table.rows.map fun row => if condition row then change.apply row else row
  keys_nodup := by
    have sameKeys :
        (table.rows.map fun row =>
            if condition row then change.apply row else row).map key =
          table.rows.map key := by
      rw [List.map_map]
      apply List.map_congr_left
      intro row _
      by_cases holds : condition row <;> simp [holds, change.keeps]
    rw [sameKeys]
    exact table.keys_nodup

/-- A column that an update does not set stays as it is. -/
theorem map_updateWhere {Column : Type} (column : Row → Column) (table : RowTable key)
    (condition : Row → Bool) (change : Change key)
    (unset : ∀ row, column (change.apply row) = column row) :
    (table.updateWhere condition change).rows.map column = table.rows.map column := by
  rw [updateWhere, List.map_map]
  apply List.map_congr_left
  intro row _
  by_cases holds : condition row <;> simp [holds, unset]

/-- `DELETE … WHERE`. -/
def deleteWhere (table : RowTable key) (condition : Row → Bool) :
    RowTable key where
  rows := table.rows.filter fun row => !condition row
  keys_nodup := (List.filter_sublist.map key).nodup table.keys_nodup

section Lookup

variable [DecidableEq Key]

/-- The row with the given primary key. -/
def find? (table : RowTable key) (value : Key) : Option Row :=
  table.rows.find? fun row => decide (key row = value)

/-- `INSERT`, refused when the primary key is taken. -/
def insert? (table : RowTable key) (row : Row) : Option (RowTable key) :=
  if absent : key row ∈ table.rows.map key then
    none
  else
    some {
      rows := table.rows ++ [row]
      keys_nodup := by
        rw [List.map_append, List.nodup_append]
        refine ⟨table.keys_nodup, by simp, ?_⟩
        intro value present other single
        rw [List.map_singleton, List.mem_singleton] at single
        subst single
        intro equal
        exact absent (equal ▸ present) }

/-- `INSERT … ON CONFLICT DO NOTHING`. -/
def insertIgnore (table : RowTable key) (row : Row) : RowTable key :=
  (table.insert? row).getD table

/-- `INSERT … ON CONFLICT (key) DO UPDATE`. -/
def upsert (table : RowTable key) (row : Row) (change : Change key) :
    RowTable key :=
  (table.insert? row).getD
    (table.updateWhere (fun old => decide (key old = key row)) change)

@[simp]
theorem find?_empty (value : Key) :
    (empty : RowTable key).find? value = none :=
  rfl

variable {table : RowTable key} {value : Key} {row : Row}

theorem key_of_find? (found : table.find? value = some row) : key row = value := by
  simpa using List.find?_some found

theorem mem_of_find? (found : table.find? value = some row) : row ∈ table.rows :=
  List.mem_of_find?_eq_some found

private theorem find?_key_eq_of_mem :
    ∀ {rows : List Row}, (rows.map key).Nodup → ∀ {row : Row}, row ∈ rows →
      rows.find? (fun other => decide (key other = key row)) = some row
  | [], _, _, member => by simp at member
  | first :: rest, nodup, row, member => by
      rw [List.map_cons, List.nodup_cons] at nodup
      rcases List.mem_cons.mp member with rfl | later
      · simp
      · have different : key first ≠ key row := by
          intro equal
          exact nodup.1 (equal ▸ List.mem_map_of_mem later)
        rw [List.find?_cons_of_neg (by simpa using different)]
        exact find?_key_eq_of_mem nodup.2 later

/-- A row of the table is the row found under its key. -/
theorem find?_of_mem (member : row ∈ table.rows) : table.find? (key row) = some row :=
  find?_key_eq_of_mem table.keys_nodup member

theorem find?_eq_some_iff :
    table.find? value = some row ↔ row ∈ table.rows ∧ key row = value := by
  constructor
  · intro found
    exact ⟨mem_of_find? found, key_of_find? found⟩
  · rintro ⟨member, rfl⟩
    exact find?_of_mem member

theorem find?_eq_none_iff :
    table.find? value = none ↔ value ∉ table.rows.map key := by
  simp [find?, List.find?_eq_none]

/-- `UPDATE … WHERE` seen through the primary key. -/
theorem find?_updateWhere (table : RowTable key) (condition : Row → Bool) (change : Change key)
    (value : Key) :
    (table.updateWhere condition change).find? value =
      (table.find? value).map fun row =>
        if condition row then change.apply row else row := by
  have sameKey (row : Row) :
      key (if condition row then change.apply row else row) = key row := by
    by_cases holds : condition row <;> simp [holds, change.keeps]
  simp only [find?, updateWhere, List.find?_map, Function.comp_def, sameKey]

/-- `DELETE … WHERE` seen through the primary key. -/
theorem find?_deleteWhere (table : RowTable key) (condition : Row → Bool)
    (value : Key) :
    (table.deleteWhere condition).find? value =
      (table.find? value).filter fun row => !condition row := by
  apply Option.ext
  intro row
  rw [find?_eq_some_iff, Option.filter_eq_some_iff, find?_eq_some_iff]
  simp only [deleteWhere, List.mem_filter]
  tauto

theorem rows_of_insert? {table inserted : RowTable key}
    (success : table.insert? row = some inserted) :
    inserted.rows = table.rows ++ [row] := by
  unfold insert? at success
  split at success
  · cases success
  · cases success
    rfl

theorem find?_insert? {table inserted : RowTable key}
    (success : table.insert? row = some inserted) (value : Key) :
    inserted.find? value =
      if key row = value then some row else table.find? value := by
  unfold insert? at success
  split at success
  · simp at success
  · rename_i absent
    rw [Option.some.injEq] at success
    subst success
    by_cases same : key row = value
    · subst same
      have missing : table.rows.find?
          (fun other => decide (key other = key row)) = none := by
        simpa [List.find?_eq_none] using absent
      simp [find?, List.find?_append, missing]
    · simp [find?, List.find?_append, same]

theorem insert?_eq_none_iff :
    table.insert? row = none ↔ (table.find? (key row)).isSome := by
  unfold insert?
  split
  · rename_i present
    obtain ⟨other, member, sameKey⟩ := List.mem_map.mp present
    have found := find?_of_mem member
    rw [sameKey] at found
    simp [found]
  · rename_i absent
    simp [find?_eq_none_iff.mpr absent]

theorem insert?_isSome_iff :
    (table.insert? row).isSome ↔ table.find? (key row) = none := by
  rw [← not_iff_not, Option.not_isSome_iff_eq_none, insert?_eq_none_iff]
  exact Option.isSome_iff_ne_none

theorem find?_insertIgnore (table : RowTable key) (row : Row) (value : Key) :
    (table.insertIgnore row).find? value =
      if key row = value then some ((table.find? value).getD row)
      else table.find? value := by
  unfold insertIgnore
  cases attempt : table.insert? row with
  | none =>
      obtain ⟨old, found⟩ :=
        Option.isSome_iff_exists.mp (insert?_eq_none_iff.mp attempt)
      by_cases same : key row = value
      · subst same
        simp [found]
      · simp [same]
  | some inserted =>
      have absent : table.find? (key row) = none :=
        insert?_isSome_iff.mp (by simp [attempt])
      rw [Option.getD_some, find?_insert? attempt]
      by_cases same : key row = value
      · subst same
        simp [absent]
      · simp [same]

theorem find?_upsert (table : RowTable key) (row : Row) (change : Change key)
    (value : Key) :
    (table.upsert row change).find? value =
      if key row = value then
        some (((table.find? value).map change.apply).getD row)
      else table.find? value := by
  unfold upsert
  cases attempt : table.insert? row with
  | none =>
      obtain ⟨old, found⟩ :=
        Option.isSome_iff_exists.mp (insert?_eq_none_iff.mp attempt)
      rw [Option.getD_none, find?_updateWhere]
      by_cases same : key row = value
      · subst same
        have oldKey := key_of_find? found
        simp [found, oldKey]
      · rw [if_neg same]
        cases present : table.find? value with
        | none => rfl
        | some other =>
            have otherKey := key_of_find? present
            simp [otherKey, Ne.symm same]
  | some inserted =>
      have absent : table.find? (key row) = none :=
        insert?_isSome_iff.mp (by simp [attempt])
      rw [Option.getD_some, find?_insert? attempt]
      by_cases same : key row = value
      · subst same
        simp [absent]
      · simp [same]

end Lookup

variable {table : RowTable key} {condition : Row → Bool}

/-- The rows of a table that an insert left. -/
theorem mem_insertIgnore [DecidableEq Key] {row other : Row}
    (member : other ∈ (table.insertIgnore row).rows) :
    other ∈ table.rows ∨ other = row := by
  unfold insertIgnore insert? at member
  split at member
  · exact .inl member
  · simpa using member

/-- An update whose condition no row meets is the identity. -/
theorem updateWhere_eq_self {change : Change key}
    (never : ∀ row ∈ table.rows, condition row = false) :
    table.updateWhere condition change = table := by
  apply ext
  change table.rows.map _ = table.rows
  conv_rhs => rw [← List.map_id table.rows]
  apply List.map_congr_left
  intro row member
  simp [never row member]

theorem affected_eq_zero_iff :
    table.affected condition = 0 ↔
      ∀ row ∈ table.rows, condition row = false := by
  simp [affected, List.countP_eq_zero]

/-- An update that reports no row left the table as it was. -/
theorem updateWhere_of_affected_eq_zero {change : Change key}
    (none : table.affected condition = 0) :
    table.updateWhere condition change = table :=
  updateWhere_eq_self (affected_eq_zero_iff.mp none)

section Keyed

variable [DecidableEq Key]

private theorem countP_key :
    ∀ {rows : List Row}, (rows.map key).Nodup → ∀ (value : Key)
      (guard : Row → Bool),
      rows.countP (fun row => decide (key row = value) && guard row) =
        if (rows.find? fun row => decide (key row = value)).any guard
          then 1 else 0
  | [], _, _, _ => rfl
  | first :: rest, nodup, value, guard => by
      rw [List.map_cons, List.nodup_cons] at nodup
      have later := countP_key nodup.2 value guard
      by_cases same : key first = value
      · have noOther :
            rest.find? (fun row => decide (key row = value)) = none := by
          rw [List.find?_eq_none]
          intro row member equal
          have rowKey : key row = key first := by
            rw [same]
            simpa using equal
          exact nodup.1 (rowKey ▸ List.mem_map_of_mem member)
        rw [noOther] at later
        rw [List.countP_cons, later]
        simp [same]
      · rw [List.countP_cons, later]
        simp [same]

/-- A statement `WHERE key = value AND guard` reports one row exactly when the
row under that key meets the guard. -/
theorem affected_key (table : RowTable key) (value : Key) (guard : Row → Bool) :
    table.affected (fun row => decide (key row = value) && guard row) =
      if (table.find? value).any guard then 1 else 0 :=
  countP_key table.keys_nodup value guard

theorem affected_key_eq_one_iff (table : RowTable key) (value : Key)
    (guard : Row → Bool) :
    table.affected (fun row => decide (key row = value) && guard row) = 1 ↔
      ∃ row, table.find? value = some row ∧ guard row = true := by
  rw [affected_key]
  cases table.find? value with
  | none => simp
  | some row => by_cases holds : guard row <;> simp [holds]

/-- The same statement's effect, seen through the primary key. -/
theorem find?_updateWhere_key (table : RowTable key) (value : Key)
    (guard : Row → Bool) (change : Change key) (other : Key) :
    (table.updateWhere (fun row => decide (key row = value) && guard row)
        change).find? other =
      if other = value then
        (table.find? value).map fun row =>
          if guard row then change.apply row else row
      else table.find? other := by
  rw [find?_updateWhere]
  by_cases same : other = value
  · subst same
    rw [if_pos rfl]
    cases found : table.find? other with
    | none => rfl
    | some row => simp [key_of_find? found]
  · rw [if_neg same]
    cases found : table.find? other with
    | none => rfl
    | some row => simp [key_of_find? found, same]

end Keyed

end RowTable
