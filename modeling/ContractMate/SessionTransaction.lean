import Mathlib

/-!
# Database sessions

One connection to a transactional store, without autocommit.  A statement outside
any block opens a transaction that stays open; a committing block ends it; a
nested block commits only what it opened itself and is a savepoint otherwise;
closing the connection discards what was not committed.
-/

namespace SessionTransaction

/-- The transaction state of a connection: none, one with its own view of the
store, or one that only a rollback can end. -/
inductive Txn (Store : Type) where
  | idle
  | active (working : Store)
  | failed

/-- The committed store and the connection's transaction. -/
structure Session (Store : Type) where
  committed : Store
  txn : Txn Store

/-- An injected failure; `breaks` leaves the transaction failed. -/
structure Fault (Err : Type) where
  error : Err
  breaks : Bool

namespace Session

variable {Store Err Value : Type}

/-- A connection that has just been opened. -/
def opened (store : Store) : Session Store :=
  ⟨store, .idle⟩

/-- The store as a statement of this connection sees it. -/
def view (session : Session Store) : Option Store :=
  match session.txn with
  | .idle => some session.committed
  | .active working => some working
  | .failed => none

/-- What the statements of a block or statement do to the store they see. -/
def attempt (body : Store → Except Err (Value × Store))
    (fault : Option (Fault Err)) (store : Store) :
    Except Err (Value × Store) :=
  match fault with
  | some fault => .error fault.error
  | none => body store

/-- The transaction that an unsuccessful block leaves. -/
def fallback (fault : Option (Fault Err)) (otherwise : Txn Store) : Txn Store :=
  if (fault.map Fault.breaks).getD false then .failed else otherwise

/-- A statement outside any block. -/
def bare (aborted : Err) (body : Store → Except Err (Value × Store))
    (fault : Option (Fault Err)) (session : Session Store) :
    Except Err Value × Session Store :=
  match session.view with
  | none => (.error aborted, session)
  | some store =>
      match attempt body fault store with
      | .ok (value, after) => (.ok value, { session with txn := .active after })
      | .error error => (.error error, { session with txn := .failed })

/-- A block that commits at its end and rolls back on an exception. -/
def commits (aborted : Err) (body : Store → Except Err (Value × Store))
    (fault : Option (Fault Err)) (session : Session Store) :
    Except Err Value × Session Store :=
  match session.view with
  | none => (.error aborted, { session with txn := fallback fault .idle })
  | some store =>
      match attempt body fault store with
      | .ok (value, after) => (.ok value, opened after)
      | .error error =>
          (.error error, { session with txn := fallback fault .idle })

/-- A block that is a transaction of its own on an idle connection and a
savepoint inside an open transaction. -/
def nested (aborted : Err) (body : Store → Except Err (Value × Store))
    (fault : Option (Fault Err)) (session : Session Store) :
    Except Err Value × Session Store :=
  match session.txn with
  | .failed => (.error aborted, session)
  | .idle =>
      match attempt body fault session.committed with
      | .ok (value, after) => (.ok value, opened after)
      | .error error =>
          (.error error, { session with txn := fallback fault .idle })
  | .active working =>
      match attempt body fault working with
      | .ok (value, after) => (.ok value, { session with txn := .active after })
      | .error error =>
          (.error error,
            { session with txn := fallback fault (.active working) })

/-- Closing the connection discards uncommitted work. -/
def close (session : Session Store) : Session Store :=
  opened session.committed

/-- A property of every store a session holds: the committed one and the working
one. -/
def Holds (property : Store → Prop) (session : Session Store) : Prop :=
  property session.committed ∧
    ∀ working, session.txn = .active working → property working

/-- No transaction is open. -/
def Idle (session : Session Store) : Prop :=
  session.txn = .idle

variable {property : Store → Prop} {aborted : Err}
  {body : Store → Except Err (Value × Store)} {fault : Option (Fault Err)}
  {session after : Session Store} {reply : Except Err Value}

variable {store : Store} {value : Value}

theorem Holds.opened (holds : property store) :
    Holds property (opened store) := by
  refine ⟨holds, ?_⟩
  intro working active
  cases active

theorem Holds.view (holds : Holds property session)
    (seen : session.view = some store) : property store := by
  unfold Session.view at seen
  split at seen
  · cases seen
    exact holds.1
  · rename_i working active
    cases seen
    exact holds.2 store active
  · cases seen

theorem Holds.fallback (holds : Holds property session) {otherwise : Txn Store}
    (kept : ∀ working, otherwise = .active working → property working) :
    Holds property { session with txn := fallback fault otherwise } := by
  refine ⟨holds.1, ?_⟩
  intro working active
  unfold Session.fallback at active
  dsimp only at active
  split at active
  · cases active
  · exact kept working active

theorem attempt_ok {result : Store}
    (success : attempt body fault store = .ok (value, result)) :
    body store = .ok (value, result) := by
  cases fault with
  | none => exact success
  | some fault => cases success

/-- A statement keeps what its body keeps. -/
theorem Holds.bare (holds : Holds property session)
    (keeps : ∀ store value result, property store → reply = .ok value →
      body store = .ok (value, result) → property result)
    (run : session.bare aborted body fault = (reply, after)) :
    Holds property after := by
  unfold Session.bare at run
  split at run
  · cases run
    exact holds
  · rename_i store seen
    split at run
    · rename_i value result success
      cases run
      refine ⟨holds.1, ?_⟩
      intro working active
      cases active
      exact keeps store value result (holds.view seen) rfl (attempt_ok success)
    · cases run
      refine ⟨holds.1, ?_⟩
      intro working active
      cases active

/-- A committing block keeps what its body keeps. -/
theorem Holds.commits (holds : Holds property session)
    (keeps : ∀ store value result, property store → reply = .ok value →
      body store = .ok (value, result) → property result)
    (run : session.commits aborted body fault = (reply, after)) :
    Holds property after := by
  unfold Session.commits at run
  split at run
  · cases run
    exact holds.fallback (by intro working active; cases active)
  · rename_i store seen
    split at run
    · rename_i value result success
      cases run
      exact .opened (keeps store value result (holds.view seen) rfl
        (attempt_ok success))
    · cases run
      exact holds.fallback (by intro working active; cases active)

/-- A nested block keeps what its body keeps. -/
theorem Holds.nested (holds : Holds property session)
    (keeps : ∀ store value result, property store → reply = .ok value →
      body store = .ok (value, result) → property result)
    (run : session.nested aborted body fault = (reply, after)) :
    Holds property after := by
  unfold Session.nested at run
  split at run
  · cases run
    exact holds
  · split at run
    · rename_i value result success
      cases run
      exact .opened (keeps _ value result holds.1 rfl (attempt_ok success))
    · cases run
      exact holds.fallback (by intro working active; cases active)
  · rename_i working open_
    split at run
    · rename_i value result success
      cases run
      refine ⟨holds.1, ?_⟩
      intro other active
      cases active
      exact keeps working value result (holds.2 working open_) rfl
        (attempt_ok success)
    · cases run
      refine holds.fallback ?_
      intro other active
      cases active
      exact holds.2 working open_

/-- A statement never changes the committed store. -/
theorem bare_committed (run : session.bare aborted body fault = (reply, after)) :
    after.committed = session.committed := by
  unfold Session.bare at run
  split at run
  · cases run
    rfl
  · split at run <;> cases run <;> rfl

/-- After a statement a transaction is open or failed. -/
theorem bare_not_idle (run : session.bare aborted body fault = (reply, after)) :
    ¬ after.Idle := by
  unfold Session.bare at run
  intro idle
  split at run
  · rename_i unseen
    cases run
    rw [Session.view, show session.txn = .idle from idle] at unseen
    cases unseen
  · split at run <;> cases run <;> cases idle

/-- A committing block leaves no transaction open when it answers. -/
theorem commits_idle (run : session.commits aborted body fault = (.ok value, after)) :
    after.Idle := by
  unfold Session.commits at run
  split at run
  · cases run
  · split at run
    · cases run
      rfl
    · cases run

/-- A committing block never leaves a transaction that can go on. -/
theorem commits_not_active (run : session.commits aborted body fault =
    (reply, after)) (working : Store) : after.txn ≠ .active working := by
  unfold Session.commits at run
  split at run
  · cases run
    unfold fallback
    dsimp only
    split <;> simp
  · split at run
    · cases run
      simp [opened]
    · cases run
      unfold fallback
      dsimp only
      split <;> simp

/-- A nested block that answers on a connection without an active transaction
found it idle. -/
theorem idle_of_nested_ok (inactive : ∀ working, session.txn ≠ .active working)
    (run : session.nested aborted body fault = (.ok value, after)) :
    session.Idle := by
  cases txn : session.txn with
  | idle => exact txn
  | active working => exact absurd txn (inactive working)
  | failed => simp [Session.nested, txn] at run

/-- Inside an open transaction a nested block changes nothing that is committed,
and leaves a transaction open. -/
theorem nested_of_not_idle (busy : ¬ session.Idle)
    (run : session.nested aborted body fault = (reply, after)) :
    after.committed = session.committed ∧ ¬ after.Idle := by
  unfold Session.nested at run
  split at run
  · cases run
    exact ⟨rfl, busy⟩
  · rename_i idle
    exact absurd idle busy
  · split at run
    · cases run
      exact ⟨rfl, by intro idle; cases idle⟩
    · cases run
      refine ⟨rfl, ?_⟩
      intro idle
      unfold Idle Session.fallback at idle
      dsimp only at idle
      split at idle <;> cases idle

/-- A nested block that answered ran its body on some store. -/
theorem body_of_nested_ok (run : session.nested aborted body fault = (.ok value, after)) :
    ∃ store result, body store = .ok (value, result) := by
  unfold Session.nested at run
  split at run
  · cases run
  · split at run
    · rename_i other result success
      cases run
      exact ⟨_, result, attempt_ok success⟩
    · cases run
  · split at run
    · rename_i other result success
      cases run
      exact ⟨_, result, attempt_ok success⟩
    · cases run

/-- On an idle connection a nested block that answered has committed. -/
theorem nested_ok_of_idle (idle : session.Idle)
    (run : session.nested aborted body fault = (.ok value, after)) :
    ∃ result, body session.committed = .ok (value, result) ∧
      after = opened result := by
  obtain ⟨committed, txn⟩ := session
  obtain rfl : txn = .idle := idle
  simp only [Session.nested] at run
  split at run
  · rename_i other result success
    cases run
    exact ⟨result, attempt_ok success, rfl⟩
  · cases run

end Session

end SessionTransaction
