import Mathlib

/-!
# Python text

Texts as lists of code points, with the white-space tests and trimming of
Python's `str`.
-/

namespace PythonText

/-- A text as its code points. -/
abbrev Text := List Char

instance lawfulBEqText : LawfulBEq Text :=
  inferInstance

/-- The code points for which `str.isspace` holds. -/
def isSpace (character : Char) : Bool :=
  let point := character.toNat
  (0x09 ≤ point && point ≤ 0x0D) || (0x1C ≤ point && point ≤ 0x20) ||
    point == 0x85 || point == 0xA0 || point == 0x1680 ||
    (0x2000 ≤ point && point ≤ 0x200A) || point == 0x2028 ||
    point == 0x2029 || point == 0x202F || point == 0x205F || point == 0x3000

/-- `str.lstrip()`. -/
def lstrip (text : Text) : Text :=
  text.dropWhile isSpace

/-- `str.rstrip()`. -/
def rstrip (text : Text) : Text :=
  text.rdropWhile isSpace

/-- `str.strip()`. -/
def strip (text : Text) : Text :=
  lstrip (rstrip text)

/-- `not text.strip()`. -/
def isBlank (text : Text) : Bool :=
  text.all isSpace

theorem prefix_rstrip (text : Text) : rstrip text <+: text :=
  List.rdropWhile_prefix isSpace text

theorem rstrip_eq_nil_iff {text : Text} :
    rstrip text = [] ↔ isBlank text = true := by
  simp [rstrip, isBlank, List.rdropWhile_eq_nil_iff]

theorem strip_eq_nil_iff {text : Text} :
    strip text = [] ↔ isBlank text = true := by
  rw [strip, lstrip, List.dropWhile_eq_nil_iff]
  constructor
  · intro blank
    rw [← rstrip_eq_nil_iff]
    by_contra nonempty
    have lastVisible := List.rdropWhile_last_not isSpace text nonempty
    exact lastVisible (blank _ (List.getLast_mem nonempty))
  · intro blank
    rw [rstrip_eq_nil_iff.mpr blank]
    intro character member
    cases member

/-- A text that starts with a visible character keeps it. -/
theorem strip_eq_rstrip_of_head {text : Text}
    (visible : ∀ character ∈ text.head?, isSpace character = false) :
    strip text = rstrip text := by
  obtain ⟨suffix, split⟩ := prefix_rstrip text
  rw [strip, lstrip]
  cases stripped : rstrip text with
  | nil => rfl
  | cons first rest =>
      have headVisible : isSpace first = false := by
        apply visible
        rw [← split, stripped]
        rfl
      rw [List.dropWhile_cons_of_neg (by simp [headVisible])]

/-- A text with no white space at its ends. -/
structure Trimmed (text : Text) : Prop where
  front : ∀ character ∈ text.head?, isSpace character = false
  back : ∀ character ∈ text.getLast?, isSpace character = false

theorem trimmed_strip (text : Text) : Trimmed (strip text) := by
  constructor
  · intro character leading
    have visible := List.head?_dropWhile_not isSpace (rstrip text)
    rw [strip, lstrip, Option.mem_def] at leading
    rw [leading] at visible
    exact visible
  · intro character last
    have suffix : strip text <:+ rstrip text := List.dropWhile_suffix isSpace
    obtain ⟨front, split⟩ := suffix
    have last' : (rstrip text).getLast? = some character := by
      rw [← split, List.getLast?_append, Option.mem_def.mp last]
      rfl
    have nonempty : rstrip text ≠ [] := by
      rintro empty
      rw [empty] at last'
      cases last'
    have visible := List.rdropWhile_last_not isSpace text nonempty
    rw [List.getLast?_eq_some_getLast nonempty, Option.some_inj] at last'
    change ¬ isSpace ((rstrip text).getLast nonempty) = true at visible
    rw [last'] at visible
    simpa using visible

theorem rstrip_of_trimmed {text : Text} (trimmed : Trimmed text) : rstrip text = text := by
  rw [rstrip, List.rdropWhile_eq_self_iff]
  intro nonempty
  simpa using trimmed.back _ (List.getLast?_eq_some_getLast nonempty)

theorem strip_of_trimmed {text : Text} (trimmed : Trimmed text) : strip text = text := by
  rw [strip_eq_rstrip_of_head trimmed.front, rstrip_of_trimmed trimmed]

@[simp]
theorem strip_strip (text : Text) : strip (strip text) = strip text :=
  strip_of_trimmed (trimmed_strip text)

theorem isBlank_append {front back : Text} :
    isBlank (front ++ back) = (isBlank front && isBlank back) :=
  List.all_append

/-- Stripping takes white space away, and nothing else. -/
theorem strip_split (text : Text) : ∃ front back, isBlank front = true ∧
    isBlank back = true ∧ front ++ (strip text ++ back) = text := by
  refine ⟨(rstrip text).takeWhile isSpace, text.rtakeWhile isSpace, ?_, ?_, ?_⟩
  · exact List.all_takeWhile
  · rw [isBlank, List.all_eq_true]
    intro character member
    exact List.mem_rtakeWhile_imp member
  · rw [strip, lstrip, ← List.append_assoc, List.takeWhile_append_dropWhile, rstrip,
      List.rdropWhile_append_rtakeWhile]

/-- White space around a text is stripped with it. -/
theorem strip_surrounded {front back : Text} (frontBlank : isBlank front = true)
    (backBlank : isBlank back = true) (text : Text) :
    strip (front ++ (text ++ back)) = strip text := by
  have noBack : ∀ other : Text, rstrip (other ++ back) = rstrip other := by
    intro other
    rw [rstrip, rstrip, List.rdropWhile, List.rdropWhile, List.reverse_append,
      List.dropWhile_append_of_pos]
    intro character member
    exact List.all_eq_true.mp backBlank character (List.mem_reverse.mp member)
  rw [← List.append_assoc, strip, noBack]
  by_cases blank : isBlank text = true
  · have both : isBlank (front ++ text) = true := by
      rw [isBlank_append, frontBlank, blank]
      rfl
    rw [rstrip_eq_nil_iff.mpr both, strip_eq_nil_iff.mpr blank]
    rfl
  · have kept : rstrip text ≠ [] := fun empty => blank (rstrip_eq_nil_iff.mp empty)
    have reached : rstrip (front ++ text) = front ++ rstrip text := by
      rw [rstrip, List.rdropWhile, List.reverse_append, List.dropWhile_append]
      have nonempty : (text.reverse.dropWhile isSpace).isEmpty = false := by
        simpa [rstrip, List.rdropWhile] using kept
      rw [nonempty]
      simp [rstrip, List.rdropWhile]
    rw [reached, lstrip, List.dropWhile_append_of_pos (List.all_eq_true.mp frontBlank)]
    rfl

/-! ## Decimal digits -/

/-- The code points of the zeros in Unicode's category `Nd`; each is followed by the
other nine digits of its script. -/
def decimalZeros : List Nat :=
  [0x30, 0x660, 0x6F0, 0x7C0, 0x966, 0x9E6, 0xA66, 0xAE6, 0xB66, 0xBE6, 0xC66, 0xCE6, 0xD66,
    0xDE6, 0xE50, 0xED0, 0xF20, 0x1040, 0x1090, 0x17E0, 0x1810, 0x1946, 0x19D0, 0x1A80, 0x1A90,
    0x1B50, 0x1BB0, 0x1C40, 0x1C50, 0xA620, 0xA8D0, 0xA900, 0xA9D0, 0xA9F0, 0xAA50, 0xABF0,
    0xFF10, 0x104A0, 0x10D30, 0x11066, 0x110F0, 0x11136, 0x111D0, 0x112F0, 0x11450, 0x114D0,
    0x11650, 0x116C0, 0x11730, 0x118E0, 0x11950, 0x11C50, 0x11D50, 0x11DA0, 0x11F50, 0x16A60,
    0x16AC0, 0x16B50, 0x1D7CE, 0x1D7D8, 0x1D7E2, 0x1D7EC, 0x1D7F6, 0x1E140, 0x1E2F0, 0x1E4F0,
    0x1E950, 0x1FBF0]

/-- The value of a decimal digit. -/
def decimalValue (character : Char) : Option Nat :=
  (decimalZeros.find? fun first =>
    first ≤ character.toNat && character.toNat < first + 10).map fun first =>
      character.toNat - first

/-- `\d`. -/
def isDecimal (character : Char) : Bool :=
  (decimalValue character).isSome

/-! ## Separated texts -/

/-- Texts joined by a separator that the first ones do not contain. -/
theorem separated_inj {separator : Char} {first second rest rest' : Text}
    (clear : separator ∉ first) (clear' : separator ∉ second)
    (same : first ++ separator :: rest = second ++ separator :: rest') :
    first = second ∧ rest = rest' := by
  induction first generalizing second with
  | nil =>
      cases second with
      | nil => exact ⟨rfl, (List.cons.inj same).2⟩
      | cons head tail =>
          have leads : separator = head := (List.cons.inj same).1
          simp [leads] at clear'
  | cons head tail induction =>
      cases second with
      | nil =>
          have leads : head = separator := (List.cons.inj same).1
          simp [leads] at clear
      | cons head' tail' =>
          obtain ⟨heads, tails⟩ := List.cons.inj same
          obtain ⟨firsts, rests⟩ := induction (fun member => clear (.tail _ member))
            (fun member => clear' (.tail _ member)) tails
          exact ⟨by rw [heads, firsts], rests⟩

end PythonText
