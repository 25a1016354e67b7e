import Mathlib

/-!
# Ordered threads

Rows that belong to threads and have positions in them.  A row is sent only when
every row before it in its thread is settled.  The order survives every change
that keeps threads and positions, settles nothing back and takes only a thread's
first unsettled row, and the addition of a row at the end of its thread.
-/

namespace ThreadOrder

/-- How far a row has come. -/
inductive Phase where
  | waiting
  | sending
  | settled
deriving DecidableEq, Repr

/-- What the order sees of a row. -/
structure Label (Thread : Type) where
  thread : Thread
  position : Int
  phase : Phase

variable {Key Thread : Type}

/-- Every row before the given one in its thread is settled. -/
def Leads (lookup : Key → Option (Label Thread)) (label : Label Thread) : Prop :=
  ∀ key other, lookup key = some other → other.thread = label.thread →
    other.position < label.position → other.phase = .settled

/-- No two rows of a thread share a position, and a row that is being sent leads
its thread. -/
structure Ordered (lookup : Key → Option (Label Thread)) : Prop where
  distinct : ∀ first second a b, lookup first = some a → lookup second = some b →
    a.thread = b.thread → a.position = b.position → first = second
  leads : ∀ key label, lookup key = some label → label.phase = .sending →
    Leads lookup label

/-- What may become of a row. -/
structure Advances (lookup : Key → Option (Label Thread))
    (before after : Label Thread) : Prop where
  thread : after.thread = before.thread
  position : after.position = before.position
  settled : before.phase = .settled → after.phase = .settled
  taken : after.phase = .sending → before.phase = .sending ∨ Leads lookup before

variable {before after : Key → Option (Label Thread)} {label : Label Thread}

theorem Advances.refl (label : Label Thread) : Advances before label label where
  thread := rfl
  position := rfl
  settled := id
  taken := .inl

/-- At most one row of a thread is being sent. -/
theorem Ordered.exclusive (ordered : Ordered before) {first second : Key}
    {a b : Label Thread} (found : before first = some a)
    (found' : before second = some b) (same : a.thread = b.thread)
    (sending : a.phase = .sending) (sending' : b.phase = .sending) :
    first = second := by
  rcases lt_trichotomy a.position b.position with less | equal | more
  · have settled := ordered.leads second b found' sending' first a found same less
    rw [sending] at settled
    cases settled
  · exact ordered.distinct first second a b found found' same equal
  · have settled := ordered.leads first a found sending second b found' same.symm
      more
    rw [sending'] at settled
    cases settled

/-- Rows may change and go. -/
theorem Ordered.update (ordered : Ordered before)
    (advances : ∀ key new, after key = some new →
      ∃ old, before key = some old ∧ Advances before old new) :
    Ordered after where
  distinct := by
    intro first second a b found found' thread position
    obtain ⟨old, was, kept⟩ := advances first a found
    obtain ⟨old', was', kept'⟩ := advances second b found'
    apply ordered.distinct first second old old' was was'
    · rw [← kept.thread, ← kept'.thread, thread]
    · rw [← kept.position, ← kept'.position, position]
  leads := by
    intro key new found sending other label found' thread earlier
    obtain ⟨old, was, kept⟩ := advances key new found
    obtain ⟨old', was', kept'⟩ := advances other label found'
    have leads : Leads before old := by
      rcases kept.taken sending with already | leads
      · exact ordered.leads key old was already
      · exact leads
    apply kept'.settled
    apply leads other old' was'
    · rw [← kept.thread, ← kept'.thread, thread]
    · rw [← kept.position, ← kept'.position]
      exact earlier

/-- A row may be added at the end of its thread. -/
theorem Ordered.insert [DecidableEq Key] (ordered : Ordered before) {key : Key}
    (added : ∀ other,
      after other = if other = key then some label else before other)
    (last : ∀ other old, before other = some old → old.thread = label.thread →
      old.position < label.position)
    (quiet : label.phase ≠ .sending) : Ordered after where
  distinct := by
    intro first second a b found found' thread position
    rw [added] at found found'
    split_ifs at found found' with isFirst isSecond isSecond
    · rw [isFirst, isSecond]
    · cases found
      have less := last second b found' thread.symm
      omega
    · cases found'
      have less := last first a found thread
      omega
    · exact ordered.distinct first second a b found found' thread position
  leads := by
    intro other new found sending third old found' thread earlier
    rw [added] at found found'
    split_ifs at found found' with isNew isThird isThird
    · cases found
      exact absurd sending quiet
    · cases found
      exact absurd sending quiet
    · cases found'
      have less := last other new found thread.symm
      omega
    · exact ordered.leads other new found sending third old found' thread earlier

theorem Ordered.empty : Ordered (fun _ : Key => (none : Option (Label Thread))) where
  distinct := by simp
  leads := by simp

end ThreadOrder
