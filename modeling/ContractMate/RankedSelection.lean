import Mathlib

/-!
# Selection by rank

A query that orders its rows by a rank which no two of them share.  Its answer is
determined by which rows there are, whatever the order in which they are stored.
-/

/-- A comparison that puts any two ranks in one order. -/
structure RankOrder {Rank : Type} (before : Rank → Rank → Bool) : Prop where
  total : ∀ first second, before first second = true ∨ before second first = true
  trans : ∀ {first second third}, before first second = true →
    before second third = true → before first third = true
  antisymm : ∀ {first second}, before first second = true →
    before second first = true → first = second

theorem insertionSort_congr {Row : Type} {first second : Row → Row → Prop}
    [DecidableRel first] [DecidableRel second]
    (same : ∀ one other, first one other ↔ second one other) (rows : List Row) :
    rows.insertionSort first = rows.insertionSort second := by
  have equal : first = second := by
    funext one other
    exact propext (same one other)
  subst equal
  congr

namespace RankOrder

variable {Rank Row : Type} {before : Rank → Rank → Bool}

/-- A linear order compares ranks. -/
theorem of_linearOrder [LinearOrder Rank] :
    RankOrder fun first second : Rank => decide (first ≤ second) where
  total first second := by
    simp only [decide_eq_true_eq]
    exact le_total first second
  trans earlier later := by
    simp only [decide_eq_true_eq] at earlier later ⊢
    exact earlier.trans later
  antisymm earlier later := by
    simp only [decide_eq_true_eq] at earlier later
    exact le_antisymm earlier later

/-- A leading column decides, and the rest breaks its ties. -/
theorem lexicographic {Column : Type} [LinearOrder Column]
    (order : RankOrder before) :
    RankOrder fun first second : Column × Rank =>
      decide (first.1 < second.1) ||
        (first.1 == second.1 && before first.2 second.2) where
  total first second := by
    simp only [Bool.or_eq_true, Bool.and_eq_true, decide_eq_true_eq, beq_iff_eq]
    rcases lt_trichotomy first.1 second.1 with less | same | greater
    · exact .inl (.inl less)
    · rcases order.total first.2 second.2 with earlier | later
      · exact .inl (.inr ⟨same, earlier⟩)
      · exact .inr (.inr ⟨same.symm, later⟩)
    · exact .inr (.inl greater)
  trans earlier later := by
    simp only [Bool.or_eq_true, Bool.and_eq_true, decide_eq_true_eq,
      beq_iff_eq] at earlier later ⊢
    rcases earlier with less | ⟨same, earlier⟩
    · rcases later with less' | ⟨same', _⟩
      · exact .inl (less.trans less')
      · exact .inl (same' ▸ less)
    · rcases later with less' | ⟨same', later⟩
      · exact .inl (same ▸ less')
      · exact .inr ⟨same.trans same', order.trans earlier later⟩
  antisymm earlier later := by
    simp only [Bool.or_eq_true, Bool.and_eq_true, decide_eq_true_eq,
      beq_iff_eq] at earlier later
    rcases earlier with less | ⟨same, earlier⟩
    · rcases later with less' | ⟨same', _⟩
      · exact absurd (less.trans less') (lt_irrefl _)
      · exact absurd less (same' ▸ lt_irrefl _)
    · rcases later with less' | ⟨_, later⟩
      · exact absurd less' (same ▸ lt_irrefl _)
      · exact Prod.ext same (order.antisymm earlier later)

section Sorting

variable (order : RankOrder before) (rank : Row → Rank)

include order

theorem pairwise_sorted (rows : List Row) :
    (rows.insertionSort fun first second =>
        before (rank first) (rank second) = true).Pairwise
      fun first second => before (rank first) (rank second) = true := by
  have total : Std.Total fun first second : Row =>
      before (rank first) (rank second) = true :=
    ⟨fun first second => order.total (rank first) (rank second)⟩
  have trans : IsTrans Row fun first second =>
      before (rank first) (rank second) = true :=
    ⟨fun _ _ _ earlier later => order.trans earlier later⟩
  exact List.pairwise_insertionSort _ rows

/-- The order of the rows in the table does not matter. -/
theorem sorted_eq_of_perm {first second : List Row} (same : first.Perm second)
    (distinct : (first.map rank).Nodup) :
    (first.insertionSort fun one other => before (rank one) (rank other) = true) =
      second.insertionSort fun one other =>
        before (rank one) (rank other) = true := by
  have perm := (List.perm_insertionSort
    (fun one other => before (rank one) (rank other) = true) first).trans
      (same.trans (List.perm_insertionSort
        (fun one other => before (rank one) (rank other) = true) second).symm)
  apply perm.eq_of_pairwise _ (order.pairwise_sorted rank first)
    (order.pairwise_sorted rank second)
  intro one other inFirst inSecond earlier later
  have ranks := order.antisymm earlier later
  have inFirst : one ∈ first := by simpa using inFirst
  have inSecond : other ∈ first := by
    rw [List.mem_insertionSort] at inSecond
    exact same.mem_iff.mpr inSecond
  exact List.inj_on_of_nodup_map distinct inFirst inSecond ranks

/-- Sorted selections are equal just when they select the same rows. -/
theorem sorted_eq_iff {first second : List Row}
    (distinctFirst : (first.map rank).Nodup)
    (distinctSecond : (second.map rank).Nodup) :
    (first.insertionSort fun one other =>
        before (rank one) (rank other) = true) =
        (second.insertionSort fun one other =>
          before (rank one) (rank other) = true) ↔
      ∀ row, row ∈ first ↔ row ∈ second := by
  constructor
  · intro equal row
    rw [← List.mem_insertionSort fun one other =>
      before (rank one) (rank other) = true, equal, List.mem_insertionSort]
  · intro same
    apply order.sorted_eq_of_perm rank _ distinctFirst
    exact (List.perm_ext_iff_of_nodup distinctFirst.of_map
      distinctSecond.of_map).mpr same

/-- A condition may be tested before the sorting or after it. -/
theorem filter_sorted {rows : List Row} (distinct : (rows.map rank).Nodup)
    (condition : Row → Bool) :
    (rows.insertionSort fun first second =>
        before (rank first) (rank second) = true).filter condition =
      (rows.filter condition).insertionSort fun first second =>
        before (rank first) (rank second) = true := by
  have sorted := (order.pairwise_sorted rank rows).filter condition
  have perm : ((rows.insertionSort fun first second =>
      before (rank first) (rank second) = true).filter condition).Perm
        (rows.filter condition) :=
    (List.perm_insertionSort _ rows).filter condition
  have distinct : ((rows.filter condition).map rank).Nodup :=
    (List.filter_sublist.map rank).nodup distinct
  rw [← order.sorted_eq_of_perm rank perm
    ((perm.map rank).nodup_iff.mpr distinct)]
  exact sorted.insertionSort_eq.symm

/-- Rows that come before all others are sorted on their own. -/
theorem sorted_split {rows : List Row} (distinct : (rows.map rank).Nodup)
    (condition : Row → Bool)
    (leads : ∀ first ∈ rows, ∀ second ∈ rows, condition first = true →
      condition second = false → before (rank first) (rank second) = true) :
    (rows.insertionSort fun first second => before (rank first) (rank second) = true) =
      ((rows.filter condition).insertionSort fun first second =>
          before (rank first) (rank second) = true) ++
        (rows.filter fun row => !condition row).insertionSort fun first second =>
          before (rank first) (rank second) = true := by
  rw [← order.filter_sorted rank distinct, ← order.filter_sorted rank distinct]
  have sorted := order.pairwise_sorted rank rows
  have within : ∀ row ∈ rows.insertionSort fun first second =>
      before (rank first) (rank second) = true, row ∈ rows := by
    intro row member
    simpa using member
  have keys : ((rows.insertionSort fun first second =>
      before (rank first) (rank second) = true).map rank).Nodup :=
    (((List.perm_insertionSort _ rows).map rank).nodup_iff).mpr distinct
  generalize (rows.insertionSort fun first second =>
    before (rank first) (rank second) = true) = ordered at sorted within keys ⊢
  induction ordered with
  | nil => rfl
  | cons row rest induction =>
      obtain ⟨least, sorted⟩ := List.pairwise_cons.mp sorted
      obtain ⟨single, keys⟩ := List.nodup_cons.mp keys
      have later := induction sorted (fun other member => within other (by simp [member])) keys
      by_cases holds : condition row = true
      · rw [List.filter_cons_of_pos holds, List.filter_cons_of_neg (by simp [holds]),
          List.cons_append, ← later]
      · -- a row that does not meet the condition is followed by no row that does
        rw [Bool.not_eq_true] at holds
        have none_ : rest.filter condition = [] := by
          rw [List.filter_eq_nil_iff]
          intro other member meets
          have ahead := leads other (within other (by simp [member])) row
            (within row (by simp)) meets holds
          have same := order.antisymm ahead (least other member)
          exact single (same ▸ List.mem_map_of_mem member)
        rw [List.filter_cons_of_neg (by simp [holds]), none_, List.nil_append,
          List.filter_cons_of_pos (by simp [holds])]
        rw [none_, List.nil_append] at later
        rw [← later]

/-- A row stands behind those that come before it, however the row is found. -/
theorem findIdx?_sorted {rows : List Row} (distinct : (rows.map rank).Nodup) {row : Row}
    (member : row ∈ rows) {named : Row → Bool}
    (single : ∀ other ∈ rows, named other = true ↔ other = row) :
    (rows.insertionSort fun first second =>
        before (rank first) (rank second) = true).findIdx? named =
      some (rows.countP fun other =>
        before (rank other) (rank row) && !before (rank row) (rank other)) := by
  have sorted := order.pairwise_sorted rank rows
  have perm := List.perm_insertionSort
    (fun first second => before (rank first) (rank second) = true) rows
  rw [← perm.countP_eq]
  replace distinct := (perm.map rank).nodup_iff.mpr distinct
  replace member := perm.mem_iff.mpr member
  replace single := fun other inSorted => single other (perm.mem_iff.mp inSorted)
  generalize (rows.insertionSort fun first second =>
    before (rank first) (rank second) = true) = ordered at sorted distinct member single ⊢
  induction ordered with
  | nil => cases member
  | cons head rest induction =>
      obtain ⟨least, sorted⟩ := List.pairwise_cons.mp sorted
      obtain ⟨alone, distinct⟩ := List.nodup_cons.mp distinct
      rw [List.findIdx?_cons, List.countP_cons]
      by_cases here : head = row
      · subst here
        have none_ : (rest.countP fun other =>
            before (rank other) (rank head) && !before (rank head) (rank other)) = 0 := by
          rw [List.countP_eq_zero]
          intro other later
          simp [least other later]
        simp [(single head (by simp)).mpr rfl, none_]
      · have later := (List.mem_cons.mp member).resolve_left (Ne.symm here)
        have ahead := least row later
        have strict : before (rank row) (rank head) = false := by
          rw [← Bool.not_eq_true]
          intro back
          exact alone (order.antisymm back ahead ▸ List.mem_map_of_mem later)
        have other : named head = false := by
          rw [← Bool.not_eq_true, single head (by simp)]
          exact here
        rw [induction sorted distinct later fun other inRest => single other (by simp [inRest])]
        simp [other, ahead, strict]

end Sorting

end RankOrder
