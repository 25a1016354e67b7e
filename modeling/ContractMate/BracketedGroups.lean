import Mathlib

/-!
# Bracketed groups

The groups of a text that stand between an opening and a closing symbol, with at least
one and at most a given number of plain symbols between the two.  A search from the
left that goes on behind every match finds every group, since no group can begin inside
another.
-/

/-- The symbols that delimit a group, and those that it may hold. -/
structure Bracketing (Symbol : Type) where
  opening : Symbol
  closing : Symbol
  plain : Symbol → Bool
  most : Nat
  opening_special : plain opening = false
  closing_special : plain closing = false
  different : opening ≠ closing

namespace Bracketing

variable {Symbol : Type} [DecidableEq Symbol] (brackets : Bracketing Symbol)

/-- The group that a text begins with, its opening symbol gone. -/
def body? (rest : List Symbol) : Option (List Symbol) :=
  let body := rest.takeWhile brackets.plain
  if (rest.dropWhile brackets.plain).head? = some brackets.closing ∧
      0 < body.length ∧ body.length ≤ brackets.most then some body
  else none

/-- The search; `skip` symbols of the last match are still to be passed over. -/
def searchFrom : Nat → List Symbol → List (List Symbol)
  | _, [] => []
  | skip + 1, _ :: rest => searchFrom skip rest
  | 0, symbol :: rest =>
      if symbol = brackets.opening then
        match brackets.body? rest with
        | some body => body :: searchFrom (body.length + 1) rest
        | none => searchFrom 0 rest
      else searchFrom 0 rest

/-- `findall`: the matches from left to right, none of which overlap. -/
def findAll (text : List Symbol) : List (List Symbol) :=
  brackets.searchFrom 0 text

/-- The group that stands at the front of a text. -/
def groupAt? : List Symbol → Option (List Symbol)
  | [] => none
  | symbol :: rest => if symbol = brackets.opening then brackets.body? rest else none

/-- The groups of a text in the order of their positions. -/
def groups (text : List Symbol) : List (List Symbol) :=
  text.tails.filterMap brackets.groupAt?

variable {brackets}

theorem body?_eq_some {rest body : List Symbol} :
    brackets.body? rest = some body ↔
      (∀ symbol ∈ body, brackets.plain symbol = true) ∧ 0 < body.length ∧
        body.length ≤ brackets.most ∧ ∃ later, rest = body ++ brackets.closing :: later := by
  constructor
  · intro found
    rw [body?] at found
    simp only [Option.ite_none_right_eq_some, Option.some.injEq] at found
    obtain ⟨⟨closed, shortest, longest⟩, rfl⟩ := found
    refine ⟨fun symbol member => List.mem_takeWhile_imp member, shortest, longest, ?_⟩
    obtain ⟨later, split⟩ := List.head?_eq_some_iff.mp closed
    exact ⟨later, by rw [← split, List.takeWhile_append_dropWhile]⟩
  · rintro ⟨plain, shortest, longest, later, rfl⟩
    have taken : (body ++ brackets.closing :: later).takeWhile brackets.plain = body := by
      rw [List.takeWhile_append_of_pos plain,
        List.takeWhile_cons_of_neg (by simp [brackets.closing_special]), List.append_nil]
    have dropped : (body ++ brackets.closing :: later).dropWhile brackets.plain =
        brackets.closing :: later := by
      rw [List.dropWhile_append_of_pos plain,
        List.dropWhile_cons_of_neg (by simp [brackets.closing_special])]
    rw [body?, taken, dropped]
    simp [shortest, longest]

/-- What stands at the front: an opening symbol, the group and a closing symbol. -/
theorem groupAt?_eq_some {text body : List Symbol} :
    brackets.groupAt? text = some body ↔
      (∀ symbol ∈ body, brackets.plain symbol = true) ∧ 0 < body.length ∧
        body.length ≤ brackets.most ∧
          ∃ later, text = brackets.opening :: body ++ brackets.closing :: later := by
  cases text with
  | nil => simp [groupAt?]
  | cons symbol rest =>
      by_cases opens : symbol = brackets.opening
      · rw [groupAt?, if_pos opens, body?_eq_some]
        simp [opens]
      · rw [groupAt?, if_neg opens]
        simp [opens]

theorem groups_cons (symbol : Symbol) (rest : List Symbol) :
    brackets.groups (symbol :: rest) =
      (brackets.groupAt? (symbol :: rest)).toList ++ brackets.groups rest := by
  rw [groups, List.tails_cons, List.filterMap_cons]
  cases brackets.groupAt? (symbol :: rest) with
  | none => rfl
  | some body => rfl

/-- Where nothing opens, no group begins. -/
theorem groups_append_left {front : List Symbol}
    (unopened : ∀ symbol ∈ front, symbol ≠ brackets.opening) (rest : List Symbol) :
    brackets.groups (front ++ rest) = brackets.groups rest := by
  induction front with
  | nil => rfl
  | cons symbol front induction =>
      rw [List.cons_append, groups_cons,
        induction fun other member => unopened other (by simp [member]), groupAt?,
        if_neg (unopened symbol (by simp))]
      rfl

/-- The groups before a text that neither opens nor closes one. -/
theorem groups_append_right {back : List Symbol}
    (unopened : ∀ symbol ∈ back, symbol ≠ brackets.opening)
    (unclosed : ∀ symbol ∈ back, symbol ≠ brackets.closing) (text : List Symbol) :
    brackets.groups (text ++ back) = brackets.groups text := by
  induction text with
  | nil =>
      have none_ := groups_append_left unopened []
      rwa [List.append_nil] at none_
  | cons symbol rest induction =>
      rw [List.cons_append, groups_cons, groups_cons, induction]
      congr 2
      apply Option.ext
      intro body
      rw [groupAt?_eq_some, groupAt?_eq_some]
      have same : (∃ later, symbol :: (rest ++ back) =
            brackets.opening :: body ++ brackets.closing :: later) ↔
          ∃ later, symbol :: rest =
            brackets.opening :: body ++ brackets.closing :: later := by
        constructor
        · rintro ⟨later, split⟩
          -- the closing symbol is not in the back, so the back lies behind it
          rw [← List.cons_append, List.append_eq_append_iff] at split
          rcases split with ⟨more, _, inBack⟩ | ⟨more, front, behind⟩
          · exact absurd rfl (unclosed brackets.closing (by simp [inBack]))
          · cases more with
            | nil =>
                rw [List.nil_append] at behind
                exact absurd rfl (unclosed brackets.closing (by simp [← behind]))
            | cons first more =>
                rw [List.cons_append, List.cons.injEq] at behind
                exact ⟨more, by rw [front, behind.1]⟩
        · rintro ⟨later, split⟩
          exact ⟨later ++ back, by rw [← List.cons_append, split]; simp⟩
      rw [same]

theorem searchFrom_eq (text : List Symbol) :
    ∀ skip, brackets.searchFrom skip text = brackets.findAll (text.drop skip) := by
  induction text with
  | nil =>
      intro skip
      rw [List.drop_nil]
      cases skip <;> rfl
  | cons symbol rest induction =>
      intro skip
      cases skip with
      | zero => rfl
      | succ skip => exact induction skip

/-- The search finds every group. -/
theorem findAll_eq_groups : ∀ text : List Symbol,
    brackets.findAll text = brackets.groups text
  | [] => rfl
  | symbol :: rest => by
      rw [groups_cons, groupAt?, findAll, searchFrom]
      by_cases opens : symbol = brackets.opening
      · rw [if_pos opens, if_pos opens]
        cases found : brackets.body? rest with
        | none => exact findAll_eq_groups rest
        | some body =>
            obtain ⟨plain, _, _, later, split⟩ := body?_eq_some.mp found
            have behind : rest.drop (body.length + 1) = later := by
              rw [split, ← List.drop_drop, List.drop_left, List.drop_one, List.tail_cons]
            -- nothing opens inside the match, so the search loses no group by skipping it
            have inside : brackets.groups rest = brackets.groups later := by
              have parts : rest = (body ++ [brackets.closing]) ++ later := by simp [split]
              rw [parts]
              apply groups_append_left
              intro other member opens
              rcases List.mem_append.mp member with inBody | closing
              · have isPlain := plain other inBody
                rw [opens, brackets.opening_special] at isPlain
                cases isPlain
              · rw [List.mem_singleton] at closing
                exact brackets.different (opens.symm.trans closing)
            have shorter : later.length < (symbol :: rest).length := by
              rw [split]
              simp
              omega
            change body :: brackets.searchFrom (body.length + 1) rest =
              body :: brackets.groups rest
            rw [searchFrom_eq, behind, findAll_eq_groups later, inside]
      · rw [if_neg opens, if_neg opens]
        exact findAll_eq_groups rest
termination_by text => text.length

end Bracketing
