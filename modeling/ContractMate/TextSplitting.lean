import Mathlib

/-!
# Splitting a text that arrives in pieces

A separator is recognised at the front of a text.  The parts between the separators are
the same when the text arrives in pieces and what stands after the last separator is put
in front of the next piece, as long as no separator can be completed around another one.
-/

namespace TextSplitting

variable {α : Type}

/-- A separator: what stands after it, if a text starts with one. -/
structure Separator (α : Type) where
  cut : List α → Option (List α)
  shrinks : ∀ text rest, cut text = some rest → rest.length < text.length

/-- A text in front of the first part. -/
def attach (front : List α) : List (List α) → List (List α)
  | [] => [front]
  | part :: parts => (front ++ part) :: parts

theorem attach_ne_nil (front : List α) (parts : List (List α)) : attach front parts ≠ [] := by
  cases parts <;> exact List.cons_ne_nil _ _

theorem attach_cons (symbol : α) (front : List α) (parts : List (List α)) :
    attach (symbol :: front) parts = attach [symbol] (attach front parts) := by
  cases parts <;> rfl

/-- The part after the last separator. -/
def leftOver (parts : List (List α)) : List α :=
  parts.getLast?.getD []

theorem leftOver_append (parts : List (List α)) {later : List (List α)}
    (nonempty : later ≠ []) :
    leftOver (parts ++ later) = leftOver later := by
  rw [leftOver, leftOver, List.getLast?_append_of_ne_nil _ nonempty]

theorem leftOver_cons {part : List α} {later : List (List α)} (nonempty : later ≠ []) :
    leftOver (part :: later) = leftOver later :=
  leftOver_append [part] nonempty

namespace Separator

variable (separator : Separator α)

/-- The parts of a text, one more than it has separators. -/
def split (text : List α) : List (List α) :=
  match _found : separator.cut text with
  | some rest => [] :: split rest
  | none =>
      match text with
      | [] => [[]]
      | symbol :: text => attach [symbol] (split text)
termination_by text.length
decreasing_by
  · exact separator.shrinks _ _ _found
  · exact Nat.lt_succ_self _

variable {separator} {symbol : α} {text rest front more : List α}

theorem split_cut (found : separator.cut text = some rest) :
    separator.split text = [] :: separator.split rest := by
  rw [split]
  split
  · rename_i other same
    rw [found] at same
    rw [Option.some.inj same]
  · rename_i absent
    simp [found] at absent

theorem cut_nil : separator.cut [] = none := by
  cases found : separator.cut [] with
  | none => rfl
  | some rest => exact absurd (separator.shrinks _ _ found) (Nat.not_lt_zero _)

@[simp] theorem split_nil : separator.split [] = [[]] := by
  rw [split]
  split
  · rename_i found
    simp [cut_nil] at found
  · rfl

theorem split_cons (absent : separator.cut (symbol :: text) = none) :
    separator.split (symbol :: text) = attach [symbol] (separator.split text) := by
  rw [split]
  split
  · rename_i found
    simp [absent] at found
  · rfl

variable (separator) in
/-- The cases of `split`. -/
theorem split_induction {motive : List α → Prop} (nil : motive [])
    (cut : ∀ text rest, separator.cut text = some rest → motive rest → motive text)
    (cons : ∀ symbol text, separator.cut (symbol :: text) = none → motive text →
      motive (symbol :: text)) (text : List α) : motive text := by
  induction size : text.length using Nat.strongRecOn generalizing text with
  | ind bound induction =>
      cases found : separator.cut text with
      | some rest =>
          have smaller : rest.length < bound := size ▸ separator.shrinks _ _ found
          exact cut text rest found (induction _ smaller rest rfl)
      | none =>
          cases text with
          | nil => exact nil
          | cons symbol text =>
              have smaller : text.length < bound := by
                rw [← size]
                exact Nat.lt_succ_self _
              exact cons symbol text found (induction _ smaller text rfl)

theorem split_ne_nil : separator.split text ≠ [] := by
  cases found : separator.cut text with
  | some rest =>
      rw [split_cut found]
      exact List.cons_ne_nil _ _
  | none =>
      cases text with
      | nil => simp
      | cons symbol text =>
          rw [split_cons found]
          exact attach_ne_nil _ _

/-- A text with one part has no separator. -/
theorem eq_of_split_singleton :
    ∀ part, separator.split text = [part] → part = text := by
  induction text using split_induction separator with
  | nil =>
      intro part single
      simpa using single.symm
  | cut text rest found _ =>
      intro part single
      rw [split_cut found] at single
      exact absurd (List.cons.inj single).2 split_ne_nil
  | cons symbol text absent induction =>
      intro part single
      rw [split_cons absent] at single
      cases parts : separator.split text with
      | nil => exact absurd parts split_ne_nil
      | cons first others =>
          rw [parts, attach] at single
          obtain ⟨rfl, rfl⟩ := List.cons.inj single
          rw [induction first parts]
          rfl

/-- No separator starts inside `front`. -/
theorem split_front
    (absent : ∀ symbol later, symbol :: later <:+ front →
      separator.cut (symbol :: later ++ text) = none) :
    separator.split (front ++ text) = attach front (separator.split text) := by
  induction front with
  | nil =>
      cases parts : separator.split text with
      | nil => exact absurd parts split_ne_nil
      | cons first others => simp [attach, parts]
  | cons symbol front induction =>
      have here : separator.cut (symbol :: (front ++ text)) = none :=
        absent symbol front List.suffix_rfl
      have later := induction fun inner later within =>
        absent inner later (within.trans (List.suffix_cons symbol front))
      rw [List.cons_append, split_cons here, later, ← attach_cons]

/-- The part after the last separator has none. -/
theorem split_leftOver :
    separator.split (leftOver (separator.split text)) =
      [leftOver (separator.split text)] := by
  induction text using split_induction separator with
  | nil => simp [leftOver]
  | cut text rest found induction =>
      have same : leftOver (separator.split text) = leftOver (separator.split rest) := by
        rw [split_cut found, leftOver_cons split_ne_nil]
      rw [same]
      exact induction
  | cons symbol text absent induction =>
      cases parts : separator.split text with
      | nil => exact absurd parts split_ne_nil
      | cons first others =>
          cases others with
          | nil =>
              have whole := eq_of_split_singleton first parts
              have single : separator.split (symbol :: text) = [symbol :: text] := by
                rw [split_cons absent, parts, whole]
                rfl
              rw [single]
              exact single
          | cons second others =>
              have same : leftOver (separator.split (symbol :: text)) =
                  leftOver (separator.split text) := by
                rw [split_cons absent, parts, attach,
                  leftOver_cons (List.cons_ne_nil _ _), leftOver_cons (List.cons_ne_nil _ _)]
              rw [same]
              exact induction

/-! ## Pieces -/

variable (separator) in
/-- A separator stays one whatever follows, and nothing that more text could make one
contains a separator already. -/
structure Steady : Prop where
  stays : ∀ text rest more, separator.cut text = some rest →
    separator.cut (text ++ more) = some (rest ++ more)
  unfinished : ∀ text more, separator.cut text = none →
    separator.cut (text ++ more) ≠ none → separator.split text = [text]

/-- More text adds to the part after the last separator. -/
theorem Steady.split_append (steady : separator.Steady) :
    separator.split (text ++ more) = (separator.split text).dropLast ++
      separator.split (leftOver (separator.split text) ++ more) := by
  induction text using split_induction separator with
  | nil => simp [leftOver]
  | cut text rest found induction =>
      have whole := split_cut (steady.stays text rest more found)
      have same : leftOver (separator.split text) = leftOver (separator.split rest) := by
        rw [split_cut found, leftOver_cons split_ne_nil]
      rw [whole, induction, same, split_cut found,
        List.dropLast_cons_of_ne_nil split_ne_nil, List.cons_append]
  | cons symbol text absent induction =>
      by_cases here : separator.cut (symbol :: text ++ more) = none
      · have whole : separator.split (symbol :: text ++ more) =
            attach [symbol] (separator.split (text ++ more)) := split_cons here
        cases parts : separator.split text with
        | nil => exact absurd parts split_ne_nil
        | cons first others =>
            cases others with
            | nil =>
                have same := eq_of_split_singleton first parts
                rw [split_cons absent, parts, same]
                rfl
            | cons second others =>
                rw [whole, induction, split_cons absent, parts]
                simp [attach, leftOver]
      · rw [steady.unfinished (symbol :: text) more absent here]
        rfl

variable (separator) in
/-- The parts that are complete after all pieces, and what is left over. -/
def feed (buffer : List α) : List (List α) → List (List α) × List α
  | [] => ([], buffer)
  | piece :: pieces =>
      let parts := separator.split (buffer ++ piece)
      let later := feed (leftOver parts) pieces
      (parts.dropLast ++ later.1, later.2)

/-- However a text is cut into pieces, its parts are those of the whole text. -/
theorem Steady.feed_eq (steady : separator.Steady) {pieces : List (List α)} {buffer : List α}
    (clean : separator.split buffer = [buffer]) :
    separator.feed buffer pieces =
      ((separator.split (buffer ++ pieces.flatten)).dropLast,
        leftOver (separator.split (buffer ++ pieces.flatten))) := by
  induction pieces generalizing buffer with
  | nil => simp [feed, clean, leftOver]
  | cons piece pieces induction =>
      have whole : separator.split (buffer ++ (piece :: pieces).flatten) =
          (separator.split (buffer ++ piece)).dropLast ++
            separator.split (leftOver (separator.split (buffer ++ piece)) ++
              pieces.flatten) := by
        rw [List.flatten_cons, ← List.append_assoc]
        exact steady.split_append
      rw [feed, induction split_leftOver, whole]
      refine Prod.ext ?_ ?_
      · rw [List.dropLast_append_of_ne_nil split_ne_nil]
      · exact (leftOver_append _ split_ne_nil).symm

end Separator

end TextSplitting
