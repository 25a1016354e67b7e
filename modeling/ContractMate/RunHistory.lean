import Mathlib

/-!
# Run histories

The steps of a run as a list that grows at its end, and what holds of the steps
after a given one.
-/

namespace RunHistory

variable {Step : Type} {steps : List Step} {new step : Step} {i : Nat}
  {property : Step → Prop}

/-- Some step after the given one has the property. -/
def Later (steps : List Step) (i : Nat) (property : Step → Prop) : Prop :=
  ∃ j later, i < j ∧ steps[j]? = some later ∧ property later

theorem lt_length_of_getElem? (found : steps[i]? = some step) :
    i < steps.length :=
  (List.getElem?_eq_some_iff.mp found).1

theorem mem_of_getElem? (found : steps[i]? = some step) : step ∈ steps :=
  List.mem_of_getElem? found

/-- A step between two others has a place between theirs. -/
theorem getElem?_of_mem_between {j : Nat}
    (member : step ∈ (steps.take j).drop (i + 1)) :
    ∃ k, i < k ∧ k < j ∧ steps[k]? = some step := by
  obtain ⟨k, place⟩ := List.mem_iff_getElem?.mp member
  rw [List.getElem?_drop, List.getElem?_take] at place
  split_ifs at place with before
  · exact ⟨i + 1 + k, by omega, before, place⟩

theorem getElem?_append (found : steps[i]? = some step) :
    (steps ++ [new])[i]? = some step := by
  rw [List.getElem?_append_left (lt_length_of_getElem? found), found]

/-- A step of the longer run is a step of the shorter one or the new step. -/
theorem getElem?_append_cases (found : (steps ++ [new])[i]? = some step) :
    steps[i]? = some step ∨ i = steps.length ∧ step = new := by
  rcases Nat.lt_or_ge i steps.length with inside | outside
  · left
    rwa [List.getElem?_append_left inside] at found
  · right
    rw [List.getElem?_append_right outside, List.getElem?_singleton] at found
    split_ifs at found with first
    · exact ⟨by omega, (Option.some.inj found).symm⟩

theorem Later.append (later : Later steps i property) :
    Later (steps ++ [new]) i property := by
  obtain ⟨j, other, after, found, holds⟩ := later
  exact ⟨j, other, after, getElem?_append found, holds⟩

theorem Later.last (before : i < steps.length) (holds : property new) :
    Later (steps ++ [new]) i property :=
  ⟨steps.length, new, before, List.getElem?_concat_length, holds⟩

theorem Later.mono {weaker : Step → Prop} (later : Later steps i property)
    (implies : ∀ step ∈ steps, property step → weaker step) :
    Later steps i weaker := by
  obtain ⟨j, other, after, found, holds⟩ := later
  exact ⟨j, other, after, found, implies other (mem_of_getElem? found) holds⟩

theorem not_later_append (never : ¬ Later steps i property)
    (new_not : ¬ property new) : ¬ Later (steps ++ [new]) i property := by
  rintro ⟨j, later, after, found, holds⟩
  rcases getElem?_append_cases found with found | ⟨_, rfl⟩
  · exact never ⟨j, later, after, found, holds⟩
  · exact new_not holds

theorem not_later_last : ¬ Later (steps ++ [new]) steps.length property := by
  rintro ⟨j, later, after, found, _⟩
  have inside := lt_length_of_getElem? found
  simp only [List.length_append, List.length_singleton] at inside
  omega

section Runs

variable {State : Type}

/-- Runs of steps that record the state they find: each starts where the one
before it ended. -/
inductive Run (before after : Step → State) (allowed : Step → Prop)
    (start : State) : List Step → State → Prop
  | nil : Run before after allowed start [] start
  | step {steps : List Step} {state : State}
      (run : Run before after allowed start steps state) (next : Step)
      (starts : before next = state) (permitted : allowed next) :
      Run before after allowed start (steps ++ [next]) (after next)

variable {before after : Step → State} {allowed : Step → Prop}
  {start final : State}

/-- What every step preserves holds at the end, and wherever a step starts. -/
theorem Run.invariant (run : Run before after allowed start steps final)
    (keeps : State → Prop)
    (holds : keeps start)
    (preserved : ∀ step ∈ steps, allowed step → keeps (before step) →
      keeps (after step)) :
    keeps final ∧ ∀ step ∈ steps, keeps (before step) := by
  induction run with
  | nil => exact ⟨holds, by simp⟩
  | @step steps state run next starts permitted induction =>
      obtain ⟨final, every⟩ := induction fun step member =>
        preserved step (by simp [member])
      have here : keeps (before next) := starts ▸ final
      refine ⟨preserved next (by simp) permitted here, ?_⟩
      intro step member
      rcases List.mem_append.mp member with earlier | last
      · exact every step earlier
      · rw [List.mem_singleton] at last
        exact last ▸ here

/-- A run up to one of its steps. -/
theorem Run.take (run : Run before after allowed start steps final)
    (found : steps[i]? = some step) :
    Run before after allowed start (steps.take i) (before step) := by
  induction run with
  | nil => simp at found
  | @step steps state run next starts permitted induction =>
      rcases getElem?_append_cases found with found | ⟨rfl, rfl⟩
      · have inside := Nat.le_of_lt (lt_length_of_getElem? found)
        rw [List.take_append_of_le_length inside]
        exact induction found
      · rw [List.take_left, starts]
        exact run

/-- What the steps from some step on preserve holds at the end once it held
there. -/
theorem Run.stable_final (run : Run before after allowed start steps final)
    (keeps : State → Prop) {first : Step} (found : steps[i]? = some first)
    (preserved : ∀ (m : Nat) (step : Step), i ≤ m → steps[m]? = some step →
      allowed step → keeps (before step) → keeps (after step))
    (holds : keeps (before first)) : keeps final := by
  induction run with
  | nil => simp at found
  | @step steps state run next starts permitted induction =>
      have last : (steps ++ [next])[steps.length]? = some next :=
        List.getElem?_concat_length
      rcases getElem?_append_cases found with found | ⟨rfl, rfl⟩
      · have inside := Nat.le_of_lt (lt_length_of_getElem? found)
        apply preserved steps.length next inside last permitted
        rw [starts]
        exact induction found fun m step after inside =>
          preserved m step after (getElem?_append inside)
      · exact preserved steps.length first (Nat.le_refl _) last permitted holds

/-- What the steps from some step to another preserve holds at the other once it
held at the one. -/
theorem Run.stable (run : Run before after allowed start steps final)
    (keeps : State → Prop) {j : Nat} {first later : Step}
    (found : steps[i]? = some first) (found' : steps[j]? = some later)
    (ordered : i ≤ j)
    (preserved : ∀ (m : Nat) (step : Step), i ≤ m → m < j →
      steps[m]? = some step → allowed step → keeps (before step) →
        keeps (after step))
    (holds : keeps (before first)) : keeps (before later) := by
  induction run with
  | nil => simp at found
  | @step steps state run next starts permitted induction =>
      rcases getElem?_append_cases found' with found' | ⟨rfl, rfl⟩
      · rcases getElem?_append_cases found with found | ⟨outside, _⟩
        · exact induction found found' fun m step after earlier inside =>
            preserved m step after earlier (getElem?_append inside)
        · have inside := lt_length_of_getElem? found'
          omega
      · rcases getElem?_append_cases found with found | ⟨_, rfl⟩
        · rw [starts]
          exact run.stable_final keeps found (fun m step after inside =>
            preserved m step after (lt_length_of_getElem? inside)
              (getElem?_append inside)) holds
        · exact holds

end Runs

end RunHistory
