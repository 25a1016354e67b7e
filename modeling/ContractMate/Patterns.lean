import Mathlib

/-!
# Patterns

Backtracking matching of patterns without back references, and the splitting of a list
at the leftmost matches.  A list that is split at one of two patterns loses more than the
matches of the first one wherever the second one matches.
-/

namespace Patterns

variable {Symbol : Type}

inductive Pattern (Symbol : Type) where
  | empty
  | one (accepts : Symbol → Bool)
  /-- As many symbols as possible, and fewer if what follows does not match. -/
  | many (least : Nat) (most : Option Nat) (accepts : Symbol → Bool)
  /-- A condition on the position and on what follows. -/
  | check (holds : Nat → List Symbol → Bool)
  | seq (first second : Pattern Symbol)
  | either (first second : Pattern Symbol)

namespace Pattern

/-- At most one match. -/
def optional (pattern : Pattern Symbol) : Pattern Symbol :=
  .either pattern .empty

/-- One pattern after the other. -/
def all : List (Pattern Symbol) → Pattern Symbol
  | [] => .empty
  | pattern :: rest => .seq pattern (all rest)

/-- The lengths of the matches at a position, in the order in which they are tried. -/
def lengths : Pattern Symbol → Nat → List Symbol → List Nat
  | empty, _, _ => [0]
  | one _, _, [] => []
  | one accepts, _, symbol :: _ => if accepts symbol then [1] else []
  | many least most accepts, _, text =>
      let run := (text.takeWhile accepts).length
      let reach := (most.map (min run)).getD run
      (List.range' least (reach + 1 - least)).reverse
  | check holds, position, text => if holds position text then [0] else []
  | seq first second, position, text =>
      (lengths first position text).flatMap fun length =>
        (lengths second (position + length) (text.drop length)).map (length + ·)
  | either first second, position, text =>
      lengths first position text ++ lengths second position text

/-- A match has at least this length. -/
def least : Pattern Symbol → Nat
  | empty => 0
  | one _ => 1
  | many least _ _ => least
  | check _ => 0
  | seq first second => least first + least second
  | either first second => min (least first) (least second)

variable {pattern : Pattern Symbol} {position : Nat} {text : List Symbol}

theorem least_le {length : Nat} (matched : length ∈ pattern.lengths position text) :
    pattern.least ≤ length := by
  induction pattern generalizing position text length with
  | empty => exact Nat.zero_le _
  | one accepts =>
      cases text with
      | nil => simp [lengths] at matched
      | cons symbol rest =>
          rw [lengths] at matched
          split at matched
          · exact Nat.le_of_eq (List.mem_singleton.mp matched).symm
          · simp at matched
  | many least most accepts =>
      rw [lengths, List.mem_reverse, List.mem_range'_1] at matched
      exact matched.1
  | check holds => exact Nat.zero_le _
  | seq first second firstLeast secondLeast =>
      rw [lengths, List.mem_flatMap] at matched
      obtain ⟨front, inFront, matched⟩ := matched
      obtain ⟨back, inBack, rfl⟩ := List.mem_map.mp matched
      have bound := firstLeast inFront
      have bound' := secondLeast inBack
      simp only [least]
      omega
  | either first second firstLeast secondLeast =>
      rw [lengths, List.mem_append] at matched
      simp only [least]
      rcases matched with inFirst | inSecond
      · have bound := firstLeast inFirst
        omega
      · have bound := secondLeast inSecond
        omega

/-- A match is no longer than the text. -/
theorem le_length {length : Nat} (matched : length ∈ pattern.lengths position text) :
    length ≤ text.length := by
  induction pattern generalizing position text length with
  | empty => simp [lengths] at matched; omega
  | one accepts =>
      cases text with
      | nil => simp [lengths] at matched
      | cons symbol rest =>
          rw [lengths] at matched
          split at matched
          · rw [List.mem_singleton.mp matched]
            simp
          · simp at matched
  | many least most accepts =>
      rw [lengths, List.mem_reverse, List.mem_range'_1] at matched
      have run := (List.takeWhile_prefix accepts (l := text)).length_le
      cases most with
      | none =>
          simp only [Option.map_none, Option.getD_none] at matched
          omega
      | some most =>
          simp only [Option.map_some, Option.getD_some] at matched
          omega
  | check holds =>
      rw [lengths] at matched
      split at matched
      · rw [List.mem_singleton.mp matched]
        exact Nat.zero_le _
      · simp at matched
  | seq first second firstBound secondBound =>
      rw [lengths, List.mem_flatMap] at matched
      obtain ⟨front, inFront, matched⟩ := matched
      obtain ⟨back, inBack, rfl⟩ := List.mem_map.mp matched
      have bound := firstBound inFront
      have bound' := secondBound inBack
      rw [List.length_drop] at bound'
      omega
  | either first second firstBound secondBound =>
      rw [lengths, List.mem_append] at matched
      rcases matched with inFirst | inSecond
      · exact firstBound inFirst
      · exact secondBound inSecond

/-- Two patterns do not match where the first one matches nothing but the empty text and
the second one does not match. -/
theorem lengths_seq_eq_nil {first second : Pattern Symbol}
    (zero : ∀ length ∈ first.lengths position text, length = 0)
    (none_ : second.lengths position text = []) :
    (seq first second).lengths position text = [] := by
  rw [lengths, List.flatMap_eq_nil_iff]
  intro length matched
  rw [zero length matched, Nat.add_zero, List.drop_zero, none_, List.map_nil]

/-- The pattern matches somewhere in a text. -/
def Occurs (pattern : Pattern Symbol) (position : Nat) (text : List Symbol) : Prop :=
  ∃ offset, pattern.lengths (position + offset) (text.drop offset) ≠ []

theorem occurs_cons {symbol : Symbol} {rest : List Symbol} :
    pattern.Occurs position (symbol :: rest) ↔
      pattern.lengths position (symbol :: rest) ≠ [] ∨ pattern.Occurs (position + 1) rest := by
  constructor
  · rintro ⟨offset, found⟩
    cases offset with
    | zero => exact .inl found
    | succ offset =>
        rw [← Nat.add_assoc, Nat.add_right_comm] at found
        exact .inr ⟨offset, found⟩
  · rintro (here | ⟨offset, found⟩)
    · exact ⟨0, here⟩
    · refine ⟨offset + 1, ?_⟩
      rw [← Nat.add_assoc, Nat.add_right_comm]
      exact found

/-- The pieces between the matches of a pattern that matches no empty text, the leftmost
match first; `skip` symbols still belong to a match. -/
def splitFrom (pattern : Pattern Symbol) : Nat → Nat → List Symbol → List (List Symbol)
  | _, _, [] => [[]]
  | position, skip + 1, _ :: rest => splitFrom pattern (position + 1) skip rest
  | position, 0, symbol :: rest =>
      match (pattern.lengths position (symbol :: rest)).head? with
      | some length => [] :: splitFrom pattern (position + 1) (length - 1) rest
      | none => (splitFrom pattern (position + 1) 0 rest).modifyHead (symbol :: ·)

def split (pattern : Pattern Symbol) (text : List Symbol) : List (List Symbol) :=
  pattern.splitFrom 0 0 text

theorem splitFrom_ne_nil (pattern : Pattern Symbol) (position skip : Nat)
    (text : List Symbol) : pattern.splitFrom position skip text ≠ [] := by
  fun_induction splitFrom pattern position skip text with
  | case1 => simp
  | case2 position skip symbol rest induction => exact induction
  | case3 position symbol rest length found induction => simp
  | case4 position symbol rest absent induction => simpa using induction

end Pattern

/-! ## What splitting loses -/

section Weights

variable (weight : Symbol → Nat)

/-- The weight of a text. -/
def weigh (text : List Symbol) : Nat :=
  (text.map weight).sum

/-- The weight of the pieces of a text. -/
def weighAll (pieces : List (List Symbol)) : Nat :=
  (pieces.map (weigh weight)).sum

@[simp]
theorem weigh_nil : weigh weight [] = 0 :=
  rfl

@[simp]
theorem weigh_cons (symbol : Symbol) (rest : List Symbol) :
    weigh weight (symbol :: rest) = weight symbol + weigh weight rest :=
  List.sum_cons

@[simp]
theorem weigh_append (front back : List Symbol) :
    weigh weight (front ++ back) = weigh weight front + weigh weight back := by
  simp [weigh]

@[simp]
theorem weighAll_cons (piece : List Symbol) (pieces : List (List Symbol)) :
    weighAll weight (piece :: pieces) = weigh weight piece + weighAll weight pieces :=
  List.sum_cons

/-- Texts that are joined with one symbol. -/
theorem weigh_intercalate (separator : Symbol) {texts : List (List Symbol)}
    (some_ : texts ≠ []) :
    weigh weight ([separator].intercalate texts) + weight separator =
      weighAll weight texts + weight separator * texts.length := by
  induction texts with
  | nil => exact absurd rfl some_
  | cons text rest induction =>
      cases rest with
      | nil => simp [weighAll]
      | cons next rest =>
          have later := induction (List.cons_ne_nil _ _)
          rw [List.intercalate_cons_cons, weigh_append, weigh_append, weighAll_cons,
            List.length_cons, Nat.mul_succ]
          simp only [weigh_cons, weigh_nil]
          omega

theorem weighAll_modifyHead {pieces : List (List Symbol)} (some_ : pieces ≠ [])
    (symbol : Symbol) :
    weighAll weight (pieces.modifyHead (symbol :: ·)) =
      weight symbol + weighAll weight pieces := by
  cases pieces with
  | nil => exact absurd rfl some_
  | cons piece rest => simp [Nat.add_assoc]

/-- Every match of a pattern has at least this weight. -/
def Pattern.Weighs (weight : Symbol → Nat) (bound : Nat) (pattern : Pattern Symbol) : Prop :=
  ∀ position text length, length ∈ pattern.lengths position text →
    bound ≤ weigh weight (text.take length)

/-- A light separator of one symbol, and heavier ones that start with another symbol. -/
structure Separates (cost : Nat) (accepts : Symbol → Bool) (other : Pattern Symbol) :
    Prop where
  light : ∀ symbol, accepts symbol = true → cost ≤ weight symbol
  heavy : ∀ position text length, length ∈ other.lengths position text →
    cost < weigh weight (text.take length)
  apart : ∀ position symbol rest, other.lengths position (symbol :: rest) ≠ [] →
    accepts symbol = false
  nonempty : 0 < other.least

variable {weight}

theorem Pattern.weighs_one {bound : Nat} {accepts : Symbol → Bool}
    (heavy : ∀ symbol, accepts symbol = true → bound ≤ weight symbol) :
    (Pattern.one accepts).Weighs weight bound := by
  intro position text length matched
  cases text with
  | nil => simp [lengths] at matched
  | cons symbol rest =>
      rw [lengths] at matched
      split at matched
      · rename_i accepted
        rw [List.mem_singleton.mp matched, List.take_succ_cons, weigh_cons]
        exact Nat.le_trans (heavy symbol accepted) (Nat.le_add_right _ _)
      · simp at matched

/-- A match of two patterns is a match of the first one and then of the second one. -/
theorem Pattern.weigh_seq {first second : Pattern Symbol} {position : Nat}
    {text : List Symbol} {length : Nat}
    (matched : length ∈ (Pattern.seq first second).lengths position text) :
    ∃ front ∈ first.lengths position text,
      ∃ back ∈ second.lengths (position + front) (text.drop front),
        weigh weight (text.take length) =
          weigh weight (text.take front) + weigh weight ((text.drop front).take back) := by
  rw [lengths, List.mem_flatMap] at matched
  obtain ⟨front, inFront, matched⟩ := matched
  obtain ⟨back, inBack, rfl⟩ := List.mem_map.mp matched
  refine ⟨front, inFront, back, inBack, ?_⟩
  rw [List.take_add, weigh_append]

theorem Pattern.Weighs.seq_left {bound : Nat} {first : Pattern Symbol}
    (weighs : first.Weighs weight bound) (second : Pattern Symbol) :
    (Pattern.seq first second).Weighs weight bound := by
  intro position text length matched
  obtain ⟨front, inFront, back, _, split⟩ := Pattern.weigh_seq matched
  rw [split]
  exact Nat.le_trans (weighs _ _ _ inFront) (Nat.le_add_right _ _)

theorem Pattern.Weighs.seq_right {bound : Nat} {second : Pattern Symbol}
    (weighs : second.Weighs weight bound) (first : Pattern Symbol) :
    (Pattern.seq first second).Weighs weight bound := by
  intro position text length matched
  obtain ⟨front, _, back, inBack, split⟩ := Pattern.weigh_seq matched
  rw [split]
  exact Nat.le_trans (weighs _ _ _ inBack) (Nat.le_add_left _ _)

variable {cost : Nat} {accepts : Symbol → Bool} {other : Pattern Symbol}

namespace Separates

open Pattern

/-- The match that is tried first is the light one, or a heavy one. -/
theorem of_head (separates : Separates weight cost accepts other) {position : Nat}
    {symbol : Symbol} {rest : List Symbol} {length : Nat}
    (found : ((either (one accepts) other).lengths position (symbol :: rest)).head? =
      some length) :
    (length = 1 ∧ accepts symbol = true) ∨
      (1 ≤ length ∧ length ≤ rest.length + 1 ∧
        cost < weigh weight ((symbol :: rest).take length)) := by
  rw [lengths, lengths] at found
  split at found
  · rename_i accepted
    exact .inl ⟨(Option.some.inj found).symm, accepted⟩
  · rw [List.nil_append] at found
    have matched := List.mem_of_head? found
    exact .inr ⟨Nat.lt_of_lt_of_le separates.nonempty (least_le matched), le_length matched,
      separates.heavy _ _ _ matched⟩

/-- The rest of a match is skipped. -/
theorem weigh_skipped {symbol : Symbol} {rest : List Symbol} {length : Nat}
    (positive : 1 ≤ length) :
    weigh weight (symbol :: rest) =
      weigh weight ((symbol :: rest).take length) + weigh weight (rest.drop (length - 1)) := by
  obtain ⟨before, rfl⟩ := Nat.exists_eq_add_of_le' positive
  rw [List.take_succ_cons, weigh_cons, weigh_cons, Nat.add_sub_cancel, Nat.add_assoc,
    ← weigh_append, List.take_append_drop]

/-- The pieces and their separators weigh no more than the text. -/
theorem weighAll_splitFrom_le (separates : Separates weight cost accepts other)
    (position skip : Nat) (text : List Symbol) :
    weighAll weight ((either (one accepts) other).splitFrom position skip text) +
      cost * ((either (one accepts) other).splitFrom position skip text).length ≤
        weigh weight (text.drop skip) + cost := by
  fun_induction splitFrom (either (one accepts) other) position skip text with
  | case1 => simp [weighAll]
  | case2 position skip symbol rest induction => simpa using induction
  | case3 position symbol rest length found induction =>
      rw [weighAll_cons, weigh_nil, List.length_cons, Nat.mul_succ, List.drop_zero]
      rcases separates.of_head found with ⟨rfl, accepted⟩ | ⟨positive, _, heavy⟩
      · have light := separates.light symbol accepted
        rw [Nat.sub_self, List.drop_zero] at induction
        rw [weigh_cons, Nat.sub_self]
        omega
      · rw [weigh_skipped positive]
        omega
  | case4 position symbol rest absent induction =>
      rw [weighAll_modifyHead weight (splitFrom_ne_nil _ _ _ _), List.length_modifyHead,
        List.drop_zero, weigh_cons]
      rw [List.drop_zero] at induction
      omega

/-- Where a heavy separator occurs, something is lost. -/
theorem weighAll_splitFrom_lt (separates : Separates weight cost accepts other)
    (position skip : Nat) (text : List Symbol)
    (occurs : other.Occurs (position + skip) (text.drop skip)) :
    weighAll weight ((either (one accepts) other).splitFrom position skip text) +
      cost * ((either (one accepts) other).splitFrom position skip text).length <
        weigh weight (text.drop skip) + cost := by
  fun_induction splitFrom (either (one accepts) other) position skip text with
  | case1 position skip =>
      obtain ⟨offset, found⟩ := occurs
      obtain ⟨length, matched⟩ := List.exists_mem_of_ne_nil _ found
      have bound := le_length matched
      have positive := Nat.lt_of_lt_of_le separates.nonempty (least_le matched)
      simp only [List.drop_nil, List.length_nil] at bound
      omega
  | case2 position skip symbol rest induction =>
      rw [Nat.succ_eq_add_one, ← Nat.add_assoc, Nat.add_right_comm] at occurs
      simpa using induction occurs
  | case3 position symbol rest length found induction =>
      rw [weighAll_cons, weigh_nil, List.length_cons, Nat.mul_succ, List.drop_zero]
      rcases separates.of_head found with ⟨rfl, accepted⟩ | ⟨positive, _, heavy⟩
      · have light := separates.light symbol accepted
        rcases occurs_cons.mp occurs with here | later
        · rw [separates.apart _ _ _ here] at accepted
          cases accepted
        · have less := induction later
          rw [Nat.sub_self, List.drop_zero] at less
          rw [weigh_cons, Nat.sub_self]
          omega
      · have least := separates.weighAll_splitFrom_le (position + 1) (length - 1) rest
        rw [weigh_skipped positive]
        omega
  | case4 position symbol rest absent induction =>
      rw [weighAll_modifyHead weight (splitFrom_ne_nil _ _ _ _), List.length_modifyHead,
        List.drop_zero, weigh_cons]
      rcases occurs_cons.mp occurs with here | later
      · rw [lengths, List.head?_eq_none_iff, List.append_eq_nil_iff] at absent
        exact absurd absent.2 here
      · have less := induction later
        rw [List.drop_zero] at less
        omega

/-- Where it does not, the text is split at single symbols. -/
theorem split_eq_splitOnP {text : List Symbol} {position : Nat}
    (absent : ¬ other.Occurs position text) :
    (either (one accepts) other).splitFrom position 0 text = text.splitOnP accepts := by
  induction text generalizing position with
  | nil => rfl
  | cons symbol rest induction =>
      rw [occurs_cons, not_or, not_not] at absent
      rw [splitFrom, lengths, absent.1, List.append_nil, lengths,
        List.splitOnP_cons_eq_if_modifyHead]
      cases accepted : accepts symbol with
      | true =>
          simp only [if_true, List.head?_cons, Nat.sub_self]
          rw [induction absent.2]
      | false =>
          simp only [Bool.false_eq_true, if_false, List.head?_nil]
          rw [induction absent.2]

end Separates

end Weights

/-! ## Splitting at single symbols -/

section Symbols

variable {accepts : Symbol → Bool}

theorem countP_eq_weigh (text : List Symbol) :
    text.countP accepts = weigh (fun symbol => if accepts symbol then 1 else 0) text := by
  induction text with
  | nil => rfl
  | cons symbol rest induction =>
      rw [List.countP_cons, weigh_cons, induction, Nat.add_comm]

theorem length_splitOnP (text : List Symbol) :
    (text.splitOnP accepts).length = text.countP accepts + 1 := by
  induction text with
  | nil => rfl
  | cons symbol rest induction =>
      rw [List.splitOnP_cons_eq_if_modifyHead, List.countP_cons]
      split
      · rw [List.length_cons, induction]
      · rw [List.length_modifyHead, induction]

/-- Separators in the texts make more pieces of their join. -/
theorem length_splitOnP_intercalate {separator : Symbol}
    (accepted : accepts separator = true) {texts : List (List Symbol)} (some_ : texts ≠ []) :
    (([separator].intercalate texts).splitOnP accepts).length =
      (texts.map (List.countP accepts)).sum + texts.length := by
  have joined := weigh_intercalate (fun symbol => if accepts symbol then 1 else 0) separator
    some_
  have counts : texts.map (List.countP accepts) =
      texts.map (weigh fun symbol => if accepts symbol then 1 else 0) :=
    List.map_congr_left fun text _ => countP_eq_weigh text
  rw [if_pos accepted, Nat.one_mul, weighAll, ← counts] at joined
  rw [length_splitOnP, countP_eq_weigh, joined]

/-- Texts without the separator are what their join is split into. -/
theorem splitOnP_intercalate {separator : Symbol} (accepted : accepts separator = true)
    {texts : List (List Symbol)} (some_ : texts ≠ [])
    (absent : ∀ text ∈ texts, ∀ symbol ∈ text, accepts symbol = false) :
    ([separator].intercalate texts).splitOnP accepts = texts := by
  induction texts with
  | nil => exact absurd rfl some_
  | cons text rest induction =>
      have here := absent text List.mem_cons_self
      cases rest with
      | nil => simpa using List.splitOnP_eq_singleton here
      | cons next rest =>
          rw [List.intercalate_cons_cons, List.append_assoc, List.singleton_append,
            List.splitOnP_append_cons_of_forall_mem here separator accepted,
            induction (List.cons_ne_nil _ _)
              fun other member => absent other (List.mem_cons_of_mem _ member)]

end Symbols

end Patterns
