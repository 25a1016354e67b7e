import ContractMate.QueueDeliveries

/-!
# Messages of the broker, counted

How the calls of a delivery move the numbers of its messages in the queues and among
the unacknowledged ones that no stored copy covers.
-/

namespace ContractMate

/-! ## Counting messages -/

/-- The unacknowledged messages that meet a condition and are held by deliveries
that are not covered by a stored copy. -/
def spare (covered : Nat → Bool) (meets : Json → Bool)
    (table : RowTable (Prod.fst : Nat × Json → Nat)) : Nat :=
  table.rows.countP fun entry => meets entry.2 && !covered entry.1

section Counting

variable {covered covered' : Nat → Bool} {meets : Json → Bool}
  {table : RowTable (Prod.fst : Nat × Json → Nat)} {delivery : Nat}

theorem countP_split {Item : Type} (splits meets : Item → Bool)
    (items : List Item) :
    items.countP meets = items.countP (fun item => splits item && meets item) +
      items.countP fun item => !splits item && meets item := by
  induction items with
  | nil => rfl
  | cons item items induction =>
      simp only [List.countP_cons, induction]
      cases splits item <;> cases meets item <;> simp <;> omega

/-- A delivery holds one message at most. -/
theorem spare_split (covered : Nat → Bool) (meets : Json → Bool)
    (table : RowTable (Prod.fst : Nat × Json → Nat)) (delivery : Nat) :
    spare covered meets table =
      (if (table.find? delivery).any
          (fun entry => meets entry.2 && !covered entry.1) then 1 else 0) +
        table.rows.countP fun entry =>
          !decide (entry.1 = delivery) && (meets entry.2 && !covered entry.1) := by
  rw [spare, countP_split (fun entry : Nat × Json => decide (entry.1 = delivery)),
    ← table.affected_key delivery]
  rfl

theorem others_congr (agree : ∀ other, other ≠ delivery →
    covered' other = covered other) :
    (table.rows.countP fun entry =>
        !decide (entry.1 = delivery) && (meets entry.2 && !covered' entry.1)) =
      table.rows.countP fun entry =>
        !decide (entry.1 = delivery) && (meets entry.2 && !covered entry.1) := by
  apply List.countP_congr
  intro entry _
  by_cases own : entry.1 = delivery
  · simp [own]
  · simp [own, agree entry.1 own]

/-- A delivery that becomes covered takes its own message off the count. -/
theorem spare_le_of_covered (covered covered' : Nat → Bool) (meets : Json → Bool)
    (table : RowTable (Prod.fst : Nat × Json → Nat)) (delivery : Nat)
    (agree : ∀ other, other ≠ delivery →
    covered' other = covered other) :
    spare covered meets table ≤ spare covered' meets table +
      if (table.find? delivery).any (fun entry => meets entry.2) then 1 else 0 := by
  rw [spare_split covered meets table delivery,
    spare_split covered' meets table delivery, others_congr agree]
  cases table.find? delivery with
  | none => simp
  | some entry =>
      simp only [Option.any_some]
      split_ifs <;> simp_all <;> omega

/-- What is dropped comes off the count unless it was covered. -/
theorem spare_le_of_drop (covered covered' : Nat → Bool) (meets : Json → Bool)
    (table : RowTable (Prod.fst : Nat × Json → Nat)) (delivery : Nat)
    (agree : ∀ other, other ≠ delivery →
    covered' other = covered other) :
    spare covered meets table ≤
      spare covered' meets (table.deleteWhere fun entry => entry.1 = delivery) +
        if (table.find? delivery).any
          (fun entry => meets entry.2 && !covered entry.1) then 1 else 0 := by
  rw [spare_split covered meets table delivery,
    spare_split covered' meets (table.deleteWhere _) delivery]
  have same : ((table.deleteWhere fun entry => entry.1 = delivery).rows.countP
        fun entry =>
          !decide (entry.1 = delivery) && (meets entry.2 && !covered' entry.1)) =
      table.rows.countP fun entry =>
        !decide (entry.1 = delivery) && (meets entry.2 && !covered' entry.1) := by
    simp only [RowTable.deleteWhere, List.countP_filter]
    apply List.countP_congr
    intro entry _
    by_cases own : entry.1 = delivery <;> simp [own]
  rw [same, others_congr agree]
  omega

/-- A message handed to an uncovered delivery counts. -/
theorem spare_insert (covered covered' : Nat → Bool) (meets : Json → Bool)
    {inserted : RowTable (Prod.fst : Nat × Json → Nat)} {message : Json}
    (agree : ∀ other, other ≠ delivery →
      covered' other = covered other)
    (uncovered : covered' delivery = false)
    (success : table.insert? (delivery, message) = some inserted) :
    spare covered' meets inserted = spare covered meets table +
      if meets message then 1 else 0 := by
  have absent : table.find? delivery = none :=
    RowTable.insert?_isSome_iff.mp (by rw [success]; rfl)
  have rows : inserted.rows = table.rows ++ [(delivery, message)] := by
    unfold RowTable.insert? at success
    split at success
    · cases success
    · cases success
      rfl
  have own := spare_split covered meets table delivery
  have own' := spare_split covered' meets table delivery
  rw [others_congr agree] at own'
  simp only [absent, Option.any_none, Bool.false_eq_true, if_false] at own own'
  rw [spare, rows, List.countP_append, ← spare, own', own]
  simp [List.countP_singleton, uncovered]

end Counting

section WorldCounts

variable {world after : QueueWorld} {meets : Json → Bool} {message : Json}

/-- The messages in a queue. -/
def QueueWorld.queued (world : QueueWorld) : List Json :=
  world.requested ++ world.retry ++ world.dead

theorem QueueWorld.countP_store (route : QueueRoute) :
    (world.store route message).queued.countP meets =
      world.queued.countP meets + if meets message then 1 else 0 := by
  cases route <;>
    simp only [QueueWorld.store, QueueWorld.queued, List.countP_append,
      List.countP_singleton] <;>
    omega

theorem countP_eraseIdx {Item : Type} (meets : Item → Bool) {items : List Item}
    {index : Nat} {item : Item} (found : items[index]? = some item) :
    items.countP meets =
      (items.eraseIdx index).countP meets + if meets item then 1 else 0 := by
  induction items generalizing index with
  | nil => simp at found
  | cons first items induction =>
      cases index with
      | zero =>
          cases found
          simp [List.countP_cons]
      | succ index =>
          have rest := @induction index (by simpa using found)
          simp only [List.countP_cons, List.eraseIdx_cons_succ, rest]
          omega

theorem QueueWorld.hand_eq_some {delivery index : Nat}
    (handed : world.hand delivery index = some (message, after)) :
    world.requested[index]? = some message ∧
      ∃ unacked, world.unacked.insert? (delivery, message) = some unacked ∧
        after = { world with requested := world.requested.eraseIdx index, unacked } := by
  unfold QueueWorld.hand at handed
  split at handed
  · cases handed
  · rename_i found waiting
    obtain ⟨unacked, inserted, same⟩ := Option.map_eq_some_iff.mp handed
    cases same
    exact ⟨waiting, unacked, inserted, rfl⟩

end WorldCounts

end ContractMate
