import ContractMate.RankedSelection

/-!
# Labelled items

Items that arrive in any order and carry their positions as labels.  Sorted by their
labels they are in place exactly when every position has one item.
-/

namespace LabelledItems

variable {Item : Type} (label : Item → Int)

/-- The items by their labels. -/
def sorted (items : List Item) : List Item :=
  items.insertionSort fun first second => label first ≤ label second

/-- The labels of a number of items in place, from a position on. -/
def positions (start count : Nat) : List Int :=
  (List.range' start count).map Int.ofNat

theorem positions_succ (start count : Nat) :
    positions start (count + 1) = (start : Int) :: positions (start + 1) count := by
  rw [positions, List.range'_succ, List.map_cons]
  rfl

theorem nodup_positions (start count : Nat) : (positions start count).Nodup :=
  List.Nodup.map (fun _ _ same => Int.ofNat.inj same) List.nodup_range'

theorem pairwise_positions (start count : Nat) :
    (positions start count).Pairwise (· ≤ ·) := by
  rw [positions, List.pairwise_map]
  exact List.pairwise_le_range'.imp fun le => Int.ofNat_le.mpr le

variable {label} {items ordered : List Item} {start count : Nat}

theorem perm_sorted (items : List Item) : (sorted label items).Perm items :=
  List.perm_insertionSort _ items

/-- Items in place are sorted. -/
theorem sorted_of_inPlace (inPlace : ordered.map label = positions start count) :
    sorted label ordered = ordered := by
  have pairwise := pairwise_positions start count
  rw [← inPlace, List.pairwise_map] at pairwise
  exact pairwise.insertionSort_eq

/-- Sorting puts any order of the items in place. -/
theorem sorted_eq_of_perm (same : items.Perm ordered)
    (inPlace : ordered.map label = positions start count) :
    sorted label items = ordered := by
  have distinct : (items.map label).Nodup := by
    rw [(same.map label).nodup_iff, inPlace]
    exact nodup_positions start count
  have equal := RankOrder.of_linearOrder.sorted_eq_of_perm label same distinct
  simp only [decide_eq_true_eq] at equal
  rw [sorted, equal]
  exact sorted_of_inPlace inPlace

/-! ## Items that are read one by one -/

section Reading

variable {Raw Read Err : Type} {read : Raw → Except Err Read} {raws : List Raw}
  {results : List Read}

theorem mapM_ok_iff :
    raws.mapM read = .ok results ↔
      List.Forall₂ (fun raw result => read raw = .ok result) raws results := by
  induction raws generalizing results with
  | nil =>
      simp only [List.mapM_nil, List.forall₂_nil_left_iff]
      constructor
      · intro same
        cases same
        rfl
      · rintro rfl
        rfl
  | cons raw raws induction =>
      rw [List.mapM_cons, List.forall₂_cons_left_iff]
      cases here : read raw with
      | error error =>
          constructor
          · nofun
          · rintro ⟨_, _, same, _⟩
            cases same
      | ok result =>
          cases later : raws.mapM read with
          | error error =>
              constructor
              · nofun
              · rintro ⟨_, rest, _, all, _⟩
                rw [← induction, later] at all
                cases all
          | ok rest =>
              have all := induction.mp later
              constructor
              · intro same
                cases same
                exact ⟨result, rest, rfl, all, rfl⟩
              · rintro ⟨_, rest', same, all', rfl⟩
                cases same
                rw [← induction, later] at all'
                cases all'
                rfl

theorem exists_of_forall₂ {relation : Raw → Read → Prop}
    (all : List.Forall₂ relation raws results) :
    ∀ raw ∈ raws, ∃ result ∈ results, relation raw result := by
  induction all with
  | nil => nofun
  | cons here _ induction =>
      intro raw member
      rcases List.mem_cons.mp member with rfl | later
      · exact ⟨_, .head _, here⟩
      · obtain ⟨result, inside, related⟩ := induction raw later
        exact ⟨result, .tail _ inside, related⟩

/-- Readings of items in some order are readings of another order of the items. -/
theorem mapM_perm_iff :
    (∃ found, raws.mapM read = .ok found ∧ found.Perm results) ↔
      ∃ inOrder, raws.Perm inOrder ∧
        List.Forall₂ (fun raw result => read raw = .ok result) inOrder results := by
  simp only [mapM_ok_iff]
  have same := List.forall₂_comp_perm_eq_perm_comp_forall₂
    (r := fun raw result => read raw = .ok result)
  exact iff_of_eq (congrFun (congrFun same raws) results)

end Reading

end LabelledItems
