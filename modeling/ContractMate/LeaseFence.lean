import Mathlib

/-!
# Rows fenced by lease tokens

A row that is worked on under a lease carries the token of its current owner.
Calls fall into three kinds: those that leave a row alone, those that take a row
(or give it up) without presenting a token, and those that present a token and
may only act on the row that carries it.  The facts here hold for every table
whose calls stay within these kinds.
-/

namespace LeaseFence

/-- Where a row stands in its life cycle. -/
inductive Stage where
  | waiting
  | leased
  | settled
deriving DecidableEq, Repr

/-- How a kind of row shows its stage and its owner's token. -/
structure Fence (Row Token : Type) where
  stage : Row → Stage
  token : Row → Option Token

variable {Row Token Key : Type}

namespace Fence

/-- A token is present only while the row is leased. -/
def Sound (fence : Fence Row Token) (row : Row) : Prop :=
  fence.token row ≠ none → fence.stage row = .leased

/-- What one call may do to one row, given the token it presents. -/
inductive RowStep (fence : Fence Row Token) :
    Option Token → Row → Row → Prop
  | keep (presented : Option Token) (row : Row) :
      RowStep fence presented row row
  | free {before after : Row} (unsettled : fence.stage before ≠ .settled)
      (sound : fence.Sound after) : RowStep fence none before after
  | present {before after : Row} {token : Token}
      (owner : fence.token before = some token)
      (leased : fence.stage before = .leased)
      (sound : fence.Sound after) : RowStep fence (some token) before after

/-- What one call may do to a table: new rows are sound, old rows take a step. -/
def TableStep (fence : Fence Row Token) (presented : Option Token)
    (before after : Key → Option Row) : Prop :=
  ∀ key, match before key with
    | none => ∀ row, after key = some row → fence.Sound row
    | some old => ∃ new, after key = some new ∧ fence.RowStep presented old new

variable {fence : Fence Row Token}

variable {row : Row} {presented : Option Token}

theorem Sound.of_no_token (none : fence.token row = none) :
    fence.Sound row :=
  fun present => absurd none present

theorem Sound.of_leased (leased : fence.stage row = .leased) :
    fence.Sound row :=
  fun _ => leased

theorem RowStep.sound {before after : Row} (step : fence.RowStep presented before after)
    (sound : fence.Sound before) : fence.Sound after := by
  cases step with
  | keep => exact sound
  | free _ sound => exact sound
  | present _ _ sound => exact sound

theorem RowStep.eq_of_settled {before after : Row}
    (step : fence.RowStep presented before after)
    (settled : fence.stage before = .settled) : after = before := by
  cases step with
  | keep => rfl
  | free unsettled => exact absurd settled unsettled
  | present _ leased =>
      rw [settled] at leased
      cases leased

theorem TableStep.refl (presented : Option Token) (table : Key → Option Row) :
    fence.TableStep presented table table := by
  intro key
  cases table key with
  | none =>
      intro row present
      cases present
  | some old => exact ⟨old, rfl, .keep presented old⟩

/-- Calls that present nothing compose. -/
theorem TableStep.trans {first second third : Key → Option Row}
    (former : fence.TableStep none first second)
    (latter : fence.TableStep none second third) :
    fence.TableStep none first third := by
  intro key
  have formerAt := former key
  have latterAt := latter key
  cases atFirst : first key with
  | none =>
      rw [atFirst] at formerAt
      intro row found
      cases atSecond : second key with
      | none =>
          rw [atSecond] at latterAt
          exact latterAt row found
      | some middle =>
          rw [atSecond] at latterAt
          obtain ⟨new, newFound, step⟩ := latterAt
          rw [found, Option.some.injEq] at newFound
          subst newFound
          exact step.sound (formerAt middle atSecond)
  | some old =>
      rw [atFirst] at formerAt
      obtain ⟨middle, atSecond, formerStep⟩ := formerAt
      rw [atSecond] at latterAt
      obtain ⟨new, newFound, latterStep⟩ := latterAt
      refine ⟨new, newFound, ?_⟩
      cases formerStep with
      | keep => exact latterStep
      | free unsettled sound =>
          exact .free unsettled (latterStep.sound sound)

/-- A call keeps every row sound. -/
theorem TableStep.sound {before after : Key → Option Row}
    (step : fence.TableStep presented before after)
    (sound : ∀ key row, before key = some row → fence.Sound row) :
    ∀ key row, after key = some row → fence.Sound row := by
  intro key row found
  have atKey := step key
  cases old : before key with
  | none =>
      rw [old] at atKey
      exact atKey row found
  | some previous =>
      rw [old] at atKey
      obtain ⟨new, newFound, rowStep⟩ := atKey
      rw [found, Option.some.injEq] at newFound
      subst newFound
      exact rowStep.sound (sound key previous old)

/-- A settled row is never changed again. -/
theorem TableStep.settled {before after : Key → Option Row}
    (step : fence.TableStep presented before after) {key : Key}
    (found : before key = some row) (settled : fence.stage row = .settled) :
    after key = some row := by
  have atKey := step key
  rw [found] at atKey
  obtain ⟨new, newFound, rowStep⟩ := atKey
  rw [newFound, rowStep.eq_of_settled settled]

end Fence

section Runs

variable {Table Event : Type} (perform : Table → Event → Table)

/-- The number of events of a run at which `fires` holds. -/
def fireCount (fires : Table → Event → Bool) : Table → List Event → Nat
  | _, [] => 0
  | table, event :: events =>
      (if fires table event then 1 else 0) +
        fireCount fires (perform table event) events

variable {perform} (fence : Fence Row Token) (view : Table → Option Row)
  {fires : Table → Event → Bool}

private theorem fireCount_eq_zero_of_settled
    (absorbing : ∀ table event row, view table = some row →
      fence.stage row = .settled → view (perform table event) = some row)
    (firesLeased : ∀ table event, fires table event = true →
      ∃ row, view table = some row ∧ fence.stage row = .leased)
    (events : List Event) :
    ∀ (table : Table) (row : Row), view table = some row →
      fence.stage row = .settled →
      fireCount perform fires table events = 0 := by
  induction events with
  | nil => intros; rfl
  | cons event events induction =>
      intro table row found settled
      have quiet : fires table event = false := by
        by_contra fired
        obtain ⟨other, otherFound, leased⟩ :=
          firesLeased table event (by simpa using fired)
        rw [found, Option.some.injEq] at otherFound
        subst otherFound
        rw [settled] at leased
        cases leased
      simp only [fireCount, quiet, Bool.false_eq_true, if_false, Nat.zero_add]
      exact induction _ row (absorbing table event row found settled) settled

/-- An event that needs a leased row and leaves it settled happens at most once
in any run in which settled rows stay. -/
theorem fireCount_le_one
    (absorbing : ∀ table event row, view table = some row →
      fence.stage row = .settled → view (perform table event) = some row)
    (firesLeased : ∀ table event, fires table event = true →
      ∃ row, view table = some row ∧ fence.stage row = .leased)
    (firesSettles : ∀ table event, fires table event = true →
      ∃ row, view (perform table event) = some row ∧
        fence.stage row = .settled)
    (events : List Event) (table : Table) :
    fireCount perform fires table events ≤ 1 := by
  induction events generalizing table with
  | nil => simp [fireCount]
  | cons event events induction =>
      by_cases fired : fires table event = true
      · obtain ⟨row, found, settled⟩ := firesSettles table event fired
        have noMore := fireCount_eq_zero_of_settled fence view absorbing firesLeased
          events (perform table event) row found settled
        simp [fireCount, fired, noMore]
      · have quiet : fires table event = false := by simpa using fired
        simpa [fireCount, quiet] using induction (perform table event)

end Runs

end LeaseFence
