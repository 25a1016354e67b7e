import ContractMate.PythonText

/-!
# Escaped text

Texts in which some characters stand for references between an ampersand and a semicolon.
An escaped text shows none of these characters but the ampersands of references, and
whatever reads the references back gives the text that was escaped.
-/

open PythonText

/-- The characters that are written as references, each with its name. -/
structure Escaping where
  references : List (Char × Text)
  ampersand : (references.lookup '&').isSome = true
  semicolon : references.lookup ';' = none
  plain_names : (references.all fun reference => reference.2.all fun character =>
    (references.lookup character).isNone) = true

namespace Escaping

variable (escaping : Escaping)

def special (character : Char) : Bool :=
  (escaping.references.lookup character).isSome

/-- A reference as it is written. -/
def written (name : Text) : Text :=
  '&' :: (name ++ [';'])

def escapeChar (character : Char) : Text :=
  match escaping.references.lookup character with
  | some name => written name
  | none => [character]

def escape (text : Text) : Text :=
  text.flatMap escaping.escapeChar

/-- Every special character of the text is the ampersand of a reference. -/
def isEscaped : Text → Bool
  | [] => true
  | character :: rest =>
      (!escaping.special character ||
        escaping.references.any fun reference =>
          (written reference.2).isPrefixOf (character :: rest)) &&
      isEscaped rest

variable {escaping}

@[simp]
theorem escape_cons (character : Char) (text : Text) :
    escaping.escape (character :: text) =
      escaping.escapeChar character ++ escaping.escape text :=
  List.flatMap_cons

theorem plain_name {reference : Char × Text} (member : reference ∈ escaping.references)
    {character : Char} (within : character ∈ reference.2) :
    escaping.references.lookup character = none := by
  have plain := List.all_eq_true.mp escaping.plain_names reference member
  exact Option.isNone_iff_eq_none.mp (List.all_eq_true.mp plain character within)

theorem mem_references {character : Char} {name : Text}
    (found : escaping.references.lookup character = some name) :
    (character, name) ∈ escaping.references := by
  obtain ⟨front, back, split, _⟩ := List.lookup_eq_some_iff.mp found
  rw [split]
  simp

/-- Plain characters in front do not matter. -/
theorem isEscaped_append {front back : Text}
    (plain : ∀ character ∈ front, escaping.references.lookup character = none) :
    escaping.isEscaped (front ++ back) = escaping.isEscaped back := by
  induction front with
  | nil => rfl
  | cons character front induction =>
      have first : escaping.special character = false := by
        rw [special, plain character (List.mem_cons_self ..)]
        rfl
      rw [List.cons_append, isEscaped, first,
        induction fun _ member => plain _ (List.mem_cons_of_mem _ member)]
      rfl

theorem isEscaped_written {character : Char} {name : Text}
    (found : escaping.references.lookup character = some name) (rest : Text) :
    escaping.isEscaped (written name ++ rest) = escaping.isEscaped rest := by
  have member := mem_references found
  have starts : (escaping.references.any fun reference =>
      (written reference.2).isPrefixOf (written name ++ rest)) = true := by
    rw [List.any_eq_true]
    exact ⟨_, member, List.isPrefixOf_iff_prefix.mpr (List.prefix_append ..)⟩
  have plain : ∀ letter ∈ name ++ [';'], escaping.references.lookup letter = none := by
    intro letter within
    rcases List.mem_append.mp within with named | closing
    · exact plain_name member named
    · rw [List.mem_singleton.mp closing]
      exact escaping.semicolon
  have shape : written name ++ rest = '&' :: ((name ++ [';']) ++ rest) := rfl
  rw [shape] at starts ⊢
  rw [isEscaped, starts, Bool.or_true, Bool.true_and, isEscaped_append plain]

/-- What is escaped shows no special character of the text. -/
@[simp]
theorem isEscaped_escape (text : Text) : escaping.isEscaped (escaping.escape text) = true := by
  induction text with
  | nil => rfl
  | cons character text induction =>
      rw [escape_cons, escapeChar]
      cases found : escaping.references.lookup character with
      | some name => rw [isEscaped_written found, induction]
      | none =>
          rw [isEscaped_append (by simpa using found), induction]

/-- Apart from the ampersand, no special character is left. -/
theorem plain_of_mem_escape {character : Char} {text : Text}
    (member : character ∈ escaping.escape text) (other : character ≠ '&') :
    escaping.references.lookup character = none := by
  obtain ⟨origin, _, within⟩ := List.mem_flatMap.mp member
  rw [escapeChar] at within
  cases found : escaping.references.lookup origin with
  | none =>
      rw [found] at within
      rw [List.mem_singleton.mp within]
      exact found
  | some name =>
      rw [found] at within
      rcases List.mem_cons.mp within with rfl | within
      · exact absurd rfl other
      · rcases List.mem_append.mp within with named | closing
        · exact plain_name (mem_references found) named
        · rw [List.mem_singleton.mp closing]
          exact escaping.semicolon

/-- Whatever copies plain characters and reads each reference as its character undoes the
escaping. -/
theorem unescape_escape {unescape : Text → Text}
    (copies : ∀ character rest, character ≠ '&' →
      unescape (character :: rest) = character :: unescape rest)
    (reads : ∀ reference ∈ escaping.references, ∀ rest,
      unescape (written reference.2 ++ rest) = reference.1 :: unescape rest)
    (text rest : Text) : unescape (escaping.escape text ++ rest) = text ++ unescape rest := by
  induction text with
  | nil => rfl
  | cons character text induction =>
      rw [escape_cons, List.append_assoc, escapeChar]
      cases found : escaping.references.lookup character with
      | some name => rw [reads _ (mem_references found), induction, List.cons_append]
      | none =>
          have other : character ≠ '&' := by
            rintro rfl
            have special := escaping.ampersand
            rw [found] at special
            cases special
          rw [List.singleton_append, copies _ _ other, induction, List.cons_append]

end Escaping
