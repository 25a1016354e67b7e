import ContractMate.SlackTables

/-!
# Statement patterns

What a keyed update and a claiming loop do to the rows of a table, whatever the
table is.
-/

namespace ContractMate

section Updates

variable {Row Key : Type} {key : Row → Key} [DecidableEq Key]

theorem updateOne_refused {table : RowTable key} {value : Key}
    {guard : Row → Bool} (change : RowTable.Change key)
    (refused : ∀ row, table.find? value = some row → guard row = false) :
    updateOne table value guard change = (false, table) := by
  have none : table.affected
      (fun row => decide (key row = value) && guard row) = 0 := by
    rw [RowTable.affected_key]
    cases found : table.find? value with
    | none => rfl
    | some row => simp [refused row found]
  simp only [updateOne, none, RowTable.updateWhere_of_affected_eq_zero none]
  rfl

theorem updateOne_success {table : RowTable key} {value : Key}
    {guard : Row → Bool} {change : RowTable.Change key}
    (success : (updateOne table value guard change).1 = true) :
    ∃ row, table.find? value = some row ∧ guard row = true ∧
      (updateOne table value guard change).2.find? value =
        some (change.apply row) := by
  simp only [updateOne, decide_eq_true_eq] at success
  obtain ⟨row, found, holds⟩ :=
    (RowTable.affected_key_eq_one_iff table value guard).mp success
  refine ⟨row, found, holds, ?_⟩
  simp [updateOne, RowTable.find?_updateWhere_key, found, holds]

/-- A column that the update does not set keeps its value in every row. -/
theorem updateOne_column {Column : Type} (column : Row → Column)
    {table : RowTable key} (value : Key) (guard : Row → Bool)
    (change : RowTable.Change key)
    (unset : ∀ row, column (change.apply row) = column row)
    {other : Key} {row : Row} (found : table.find? other = some row) :
    ∃ after, (updateOne table value guard change).2.find? other = some after ∧
      column after = column row := by
  refine ⟨if (decide (key row = value) && guard row) = true then
    change.apply row else row, ?_, ?_⟩
  · simp [updateOne, RowTable.find?_updateWhere, found]
  · split
    · exact unset row
    · rfl

/-- A keyed update either changes the row under its key or nothing. -/
theorem updateOne_cases (table : RowTable key) (value : Key)
    (guard : Row → Bool) (change : RowTable.Change key) :
    (∃ row, table.find? value = some row ∧ guard row = true ∧
      (updateOne table value guard change).1 = true ∧
      ∀ other, (updateOne table value guard change).2.find? other =
        if other = value then some (change.apply row)
        else table.find? other) ∨
    ((∀ row, table.find? value = some row → guard row = false) ∧
      updateOne table value guard change = (false, table)) := by
  by_cases meets : ∃ row, table.find? value = some row ∧ guard row = true
  · obtain ⟨row, found, holds⟩ := meets
    refine .inl ⟨row, found, holds, ?_, ?_⟩
    · simp only [updateOne, decide_eq_true_eq]
      exact (RowTable.affected_key_eq_one_iff table value guard).mpr
        ⟨row, found, holds⟩
    · intro other
      simp [updateOne, RowTable.find?_updateWhere_key, found, holds]
  · have refused (row : Row) (found : table.find? value = some row) :
        guard row = false := by
      rw [Bool.eq_false_iff]
      intro holds
      exact meets ⟨row, found, holds⟩
    exact .inr ⟨refused, updateOne_refused change refused⟩

end Updates

section Selection

variable {Row Key Item : Type} {key : Row → Key} [DecidableEq Key]

theorem mem_claimEach (skips : Bool) (guard : Row → Bool)
    (take : Row → Uuid → RowTable.Change key)
    (item : Row → Uuid → Item) (stamp : Stamp) (rows : List Row) :
    ∀ (position : Nat) (table : RowTable key) (claimed : Item),
      claimed ∈ (claimEach skips guard take item stamp position rows
        table).1 →
      ∃ selected ∈ rows, ∃ token, claimed = item selected token := by
  induction rows with
  | nil =>
      intro position table claimed member
      cases member
  | cons selected rest induction =>
      intro position table claimed member
      have later : claimed ∈ (claimEach skips guard take item stamp
            (position + 1) rest (updateOne table (key selected) guard
              (take selected (stamp.uuid4 position))).2).1 ∨
          claimed = item selected (stamp.uuid4 position) := by
        simp only [claimEach] at member
        split at member
        · exact .inl member
        · rcases List.mem_cons.mp member with same | later
          · exact .inr same
          · exact .inl later
      rcases later with later | same
      · obtain ⟨other, otherMember, token, same⟩ :=
          induction (position + 1) _ claimed later
        exact ⟨other, List.mem_cons_of_mem _ otherMember, token, same⟩
      · exact ⟨selected, by simp, _, same⟩

theorem mem_of_mem_orderedFirst {Rank : Type} {rows : List Row}
    {rank : Row → Rank} {before : Rank → Rank → Bool} {count : Int} {row : Row}
    (member : row ∈ orderedFirst rows rank before count) : row ∈ rows := by
  have sorted := List.mem_of_mem_take member
  simpa using sorted

/-- A row selected by key is the row found under its key. -/
theorem condition_of_selected {table : RowTable key} {condition : Row → Bool}
    {Rank : Type} {rank : Row → Rank} {before : Rank → Rank → Bool}
    {count : Int} {selected row : Row}
    (member : selected ∈ orderedFirst (table.select condition) rank before count)
    (found : table.find? (key selected) = some row) :
    condition row = true := by
  have inSelect := mem_of_mem_orderedFirst member
  rw [RowTable.select, List.mem_filter] at inSelect
  rw [RowTable.find?_of_mem inSelect.1, Option.some.injEq] at found
  exact found ▸ inSelect.2

end Selection

section Claiming

variable {Row Key Item : Type} {key : Row → Key} [DecidableEq Key]
  (guard : Row → Bool) (take : Row → Uuid → RowTable.Change key)
  (item : Row → Uuid → Item) (stamp : Stamp)

/-- The claiming loop leaves the rows it does not select. -/
theorem claimEach_other (skips : Bool) (rows : List Row) :
    ∀ (position : Nat) (table : RowTable key) (other : Key),
      other ∉ rows.map key →
      (claimEach skips guard take item stamp position rows table).2.find?
        other = table.find? other := by
  induction rows with
  | nil =>
      intro position table other _
      rfl
  | cons selected rest induction =>
      intro position table other absent
      rw [List.map_cons, List.mem_cons, not_or] at absent
      have later := induction (position + 1)
        (updateOne table (key selected) guard
          (take selected (stamp.uuid4 position))).2 other absent.2
      refine later.trans ?_
      simp [updateOne, RowTable.find?_updateWhere_key, absent.1]

/-- What the skipping loop reports is what it has written. -/
theorem claimEach_taken (rows : List Row) :
    ∀ (position : Nat) (table : RowTable key), (rows.map key).Nodup →
      ∀ claimed ∈ (claimEach true guard take item stamp position rows table).1,
        ∃ selected ∈ rows, ∃ place old,
          claimed = item selected (stamp.uuid4 place) ∧
          table.find? (key selected) = some old ∧
          (claimEach true guard take item stamp position rows table).2.find?
            (key selected) =
              some ((take selected (stamp.uuid4 place)).apply old) := by
  induction rows with
  | nil =>
      intro position table _ claimed member
      cases member
  | cons selected rest induction =>
      intro position table nodup claimed member
      rw [List.map_cons, List.nodup_cons] at nodup
      simp only [claimEach] at member ⊢
      have fromRest (inRest : claimed ∈ (claimEach true guard take item stamp
            (position + 1) rest (updateOne table (key selected) guard
              (take selected (stamp.uuid4 position))).2).1) :
          ∃ other ∈ selected :: rest, ∃ place old,
            claimed = item other (stamp.uuid4 place) ∧
            table.find? (key other) = some old ∧
            (claimEach true guard take item stamp (position + 1) rest
              (updateOne table (key selected) guard
                (take selected (stamp.uuid4 position))).2).2.find?
              (key other) =
                some ((take other (stamp.uuid4 place)).apply old) := by
        obtain ⟨other, otherMember, place, old, same, found, written⟩ :=
          induction (position + 1) _ nodup.2 claimed inRest
        have different : key other ≠ key selected := by
          intro equal
          exact nodup.1 (equal ▸ List.mem_map_of_mem otherMember)
        rw [updateOne, RowTable.find?_updateWhere_key, if_neg different]
          at found
        exact ⟨other, List.mem_cons_of_mem _ otherMember, place, old, same,
          found, written⟩
      split at member
      · exact fromRest member
      · rename_i reported
        rcases List.mem_cons.mp member with same | inRest
        · rcases updateOne_cases table (key selected) guard
              (take selected (stamp.uuid4 position)) with
            ⟨old, found, _, _, rows⟩ | ⟨_, refused⟩
          · refine ⟨selected, by simp, position, old, same, found, ?_⟩
            rw [claimEach_other guard take item stamp true rest _ _ _ nodup.1,
              rows, if_pos rfl]
          · simp [refused] at reported
        · exact fromRest inRest

/-- The claiming loop changes selected rows only. -/
theorem claimEach_find? (skips : Bool) (rows : List Row) :
    ∀ (position : Nat) (table : RowTable key), (rows.map key).Nodup →
      ∀ (other : Key),
        (claimEach skips guard take item stamp position rows table).2.find? other =
            table.find? other ∨
          ∃ selected ∈ rows, key selected = other ∧ ∃ token old,
            table.find? other = some old ∧
              (claimEach skips guard take item stamp position rows table).2.find?
                other = some ((take selected token).apply old) := by
  induction rows with
  | nil =>
      intro position table _ other
      exact .inl rfl
  | cons selected rest induction =>
      intro position table nodup other
      rw [List.map_cons, List.nodup_cons] at nodup
      simp only [claimEach]
      by_cases same : other = key selected
      · have absent : other ∉ rest.map key := same ▸ nodup.1
        rw [claimEach_other guard take item stamp skips rest _ _ other absent]
        rcases updateOne_cases table (key selected) guard
            (take selected (stamp.uuid4 position)) with
          ⟨old, found, _, _, written⟩ | ⟨_, refused⟩
        · right
          refine ⟨selected, by simp, same.symm, stamp.uuid4 position, old, ?_, ?_⟩
          · rw [same, found]
          · rw [written, if_pos same]
        · left
          rw [refused]
      · have kept : (updateOne table (key selected) guard
            (take selected (stamp.uuid4 position))).2.find? other =
            table.find? other := by
          rw [updateOne, RowTable.find?_updateWhere_key, if_neg same]
        rcases induction (position + 1) (updateOne table (key selected) guard
            (take selected (stamp.uuid4 position))).2 nodup.2 other with
          unchanged | ⟨taken, member, named, token, old, found, written⟩
        · left
          rw [unchanged, kept]
        · right
          rw [kept] at found
          exact ⟨taken, List.mem_cons_of_mem _ member, named, token, old, found,
            written⟩

/-- The unguarded loop takes every selected row. -/
theorem claimEach_selected (skips : Bool) (rows : List Row) :
    ∀ (position : Nat) (table : RowTable key), (rows.map key).Nodup →
      ∀ selected ∈ rows, ∀ row, table.find? (key selected) = some row →
        ∃ token, (claimEach skips (fun _ => true) take item stamp position rows
          table).2.find? (key selected) =
            some ((take selected token).apply row) := by
  induction rows with
  | nil =>
      intro position table _ selected member
      cases member
  | cons first rest induction =>
      intro position table nodup selected member row found
      rw [List.map_cons, List.nodup_cons] at nodup
      simp only [claimEach]
      rcases List.mem_cons.mp member with rfl | later
      · refine ⟨stamp.uuid4 position, ?_⟩
        rw [claimEach_other (fun _ => true) take item stamp skips rest _ _ _ nodup.1,
          updateOne, RowTable.find?_updateWhere_key, if_pos rfl, found]
        rfl
      · apply induction (position + 1) _ nodup.2 selected later
        have different : key selected ≠ key first := by
          intro same
          exact nodup.1 (same ▸ List.mem_map_of_mem later)
        rw [updateOne, RowTable.find?_updateWhere_key, if_neg different, found]

/-- A loop that skips nothing reports an item for every selected row. -/
theorem claimEach_items (describe : Row → Item) (rows : List Row) :
    ∀ (position : Nat) (table : RowTable key),
      (claimEach false guard take (fun row _ => describe row) stamp position rows
        table).1 = rows.map describe := by
  induction rows with
  | nil =>
      intro position table
      rfl
  | cons selected rest induction =>
      intro position table
      simp [claimEach, induction]

/-- The claiming loop keeps the columns it does not set. -/
theorem claimEach_column {Column : Type} (column : Row → Column)
    (unset : ∀ selected token row,
      column ((take selected token).apply row) = column row)
    (skips : Bool) (rows : List Row) :
    ∀ (position : Nat) (table : RowTable key) (other : Key),
      ((claimEach skips guard take item stamp position rows table).2.find?
        other).map column = (table.find? other).map column := by
  induction rows with
  | nil =>
      intro position table other
      rfl
  | cons selected rest induction =>
      intro position table other
      refine (induction (position + 1) _ other).trans ?_
      simp only [updateOne, RowTable.find?_updateWhere]
      cases table.find? other with
      | none => rfl
      | some row =>
          simp only [Option.map_some, Option.some.injEq]
          split
          · exact unset _ _ _
          · rfl

/-- The same of the whole table. -/
theorem map_claimEach {Column : Type} (column : Row → Column)
    (unset : ∀ selected token row,
      column ((take selected token).apply row) = column row)
    (skips : Bool) (rows : List Row) :
    ∀ (position : Nat) (table : RowTable key),
      (claimEach skips guard take item stamp position rows table).2.rows.map column =
        table.rows.map column := by
  induction rows with
  | nil =>
      intro position table
      rfl
  | cons selected rest induction =>
      intro position table
      refine (induction (position + 1) _).trans ?_
      exact RowTable.map_updateWhere column table _ _ (unset selected _)

/-- The loop reports at most one item for each selected row, in order. -/
theorem claimEach_sublist {Label : Type} (label : Item → Label)
    (rowLabel : Row → Label)
    (labels : ∀ row token, label (item row token) = rowLabel row)
    (skips : Bool) (rows : List Row) :
    ∀ (position : Nat) (table : RowTable key),
      ((claimEach skips guard take item stamp position rows table).1.map
        label).Sublist (rows.map rowLabel) := by
  induction rows with
  | nil =>
      intro position table
      exact List.Sublist.slnil
  | cons selected rest induction =>
      intro position table
      simp only [claimEach]
      split
      · exact (induction _ _).cons _
      · rw [List.map_cons, List.map_cons, labels]
        exact (induction _ _).cons_cons _

omit [DecidableEq Key] in
theorem orderedFirst_nodup {Rank : Type} (table : RowTable key)
    (condition : Row → Bool) (rank : Row → Rank) (before : Rank → Rank → Bool)
    (count : Int) :
    ((orderedFirst (table.select condition) rank before count).map
      key).Nodup := by
  have selected : ((table.select condition).map key).Nodup :=
    (List.filter_sublist.map key).nodup table.keys_nodup
  have sorted := ((List.perm_insertionSort (fun first second =>
    before (rank first) (rank second) = true)
      (table.select condition)).map key).nodup_iff.mpr selected
  exact ((List.take_sublist _ _).map key).nodup sorted

end Claiming

end ContractMate
