import ContractMate.EscapedText

/-!
# Text in HTML

`html.escape` writes the characters with a meaning in HTML as references, and
`html.unescape` reads references of all kinds.
-/

namespace Html

open PythonText

/-! ## Escaping -/

/-- `text.replace(old, new)` for a single character. -/
def replace (old : Char) (new : Text) (text : Text) : Text :=
  text.flatMap fun character => if character = old then new else [character]

/-- `html.escape`: the ampersand first, so that no reference is escaped twice. -/
def escape (text : Text) : Text :=
  let text := replace '&' ['&', 'a', 'm', 'p', ';'] text
  let text := replace '<' ['&', 'l', 't', ';'] text
  let text := replace '>' ['&', 'g', 't', ';'] text
  let text := replace '"' ['&', 'q', 'u', 'o', 't', ';'] text
  replace '\'' ['&', '#', 'x', '2', '7', ';'] text

/-- The five characters, each with its reference. -/
def escaping : Escaping where
  references :=
    [('&', ['a', 'm', 'p']), ('<', ['l', 't']), ('>', ['g', 't']), ('"', ['q', 'u', 'o', 't']),
      ('\'', ['#', 'x', '2', '7'])]
  ampersand := rfl
  semicolon := rfl
  plain_names := by decide

/-! ## References -/

/-- `_invalid_charrefs`: the numbers that are read as another character. -/
def invalidCharrefs : List (Nat × Nat) :=
  [(0x00, 0xfffd), (0x0d, 0x0d), (0x80, 0x20ac), (0x81, 0x81), (0x82, 0x201a), (0x83, 0x0192),
    (0x84, 0x201e), (0x85, 0x2026), (0x86, 0x2020), (0x87, 0x2021), (0x88, 0x02c6),
    (0x89, 0x2030), (0x8a, 0x0160), (0x8b, 0x2039), (0x8c, 0x0152), (0x8d, 0x8d),
    (0x8e, 0x017d), (0x8f, 0x8f), (0x90, 0x90), (0x91, 0x2018), (0x92, 0x2019), (0x93, 0x201c),
    (0x94, 0x201d), (0x95, 0x2022), (0x96, 0x2013), (0x97, 0x2014), (0x98, 0x02dc),
    (0x99, 0x2122), (0x9a, 0x0161), (0x9b, 0x203a), (0x9c, 0x0153), (0x9d, 0x9d),
    (0x9e, 0x017e), (0x9f, 0x0178)]

/-- `_invalid_codepoints`: the numbers that are read as nothing. -/
def isInvalidCodepoint (number : Nat) : Bool :=
  (0x1 ≤ number && number ≤ 0x8) || (0xe ≤ number && number ≤ 0x1f) ||
    (0x7f ≤ number && number ≤ 0x9f) || (0xfdd0 ≤ number && number ≤ 0xfdef) ||
    number = 0xb || 0xfffe ≤ number % 0x10000

/-- The text that a number stands for. -/
def numbered (number : Nat) : Text :=
  match invalidCharrefs.lookup number with
  | some character => [Char.ofNat character]
  | none =>
      if (0xd800 ≤ number ∧ number ≤ 0xdfff) ∨ 0x10ffff < number then [Char.ofNat 0xfffd]
      else if isInvalidCodepoint number then []
      else [Char.ofNat number]

def hexDigits : Text :=
  ['0', '1', '2', '3', '4', '5', '6', '7', '8', '9', 'a', 'b', 'c', 'd', 'e', 'f']

/-- `int(digits, base)`. -/
def value (base : Nat) (digits : Text) : Nat :=
  digits.foldl (fun number digit => number * base + hexDigits.idxOf digit.toLower) 0

/-- The length of `;?`. -/
def semicolon (text : Text) : Nat :=
  if text.head? = some ';' then 1 else 0

/-- A number in the digits of a base, with what it is read as and the length of the
match. -/
def numeric (base : Nat) (text : Text) : Option (Text × Nat) :=
  let digits := text.takeWhile fun character =>
    hexDigits.idxOf character.toLower < base
  if digits = [] then none
  else some (numbered (value base digits),
    digits.length + semicolon (text.drop digits.length))

/-- `[^\t\n\f <&#;]`. -/
def isNameCharacter (character : Char) : Bool :=
  character ∉ ['\t', '\n', Char.ofNat 12, ' ', '<', '&', '#', ';']

/-- The table `_html5` holds more than two thousand names, with and without semicolon;
these are the ones that escaping writes. -/
structure Entities where
  html5 : Text → Option Text
  amp : html5 ['a', 'm', 'p', ';'] = some ['&']
  lt : html5 ['l', 't', ';'] = some ['<']
  gt : html5 ['g', 't', ';'] = some ['>']
  quot : html5 ['q', 'u', 'o', 't', ';'] = some ['"']

section Reading

variable (entities : Entities)

/-- The longest name at the front of a text, from `size` characters down to two. -/
def longest (text : Text) : Nat → Option Text
  | 0 | 1 => none
  | size + 1 =>
      match entities.html5 (text.take (size + 1)) with
      | some characters => some (characters ++ text.drop (size + 1))
      | none => longest text size

/-- `_replace_charref` for a name. -/
def named (text : Text) : Option (Text × Nat) :=
  let name := (text.take 32).takeWhile isNameCharacter
  if name = [] then none
  else
    let size := name.length + semicolon (text.drop name.length)
    let group := text.take size
    match entities.html5 group with
    | some characters => some (characters, size)
    | none => some ((longest entities group (size - 1)).getD ('&' :: group), size)

/-- `_charref` behind an ampersand: what it is replaced by, and how long it is. -/
def reference : Text → Option (Text × Nat)
  | '#' :: 'x' :: text | '#' :: 'X' :: text =>
      (numeric 16 text).map fun (characters, size) => (characters, size + 2)
  | '#' :: text => (numeric 10 text).map fun (characters, size) => (characters, size + 1)
  | text => named entities text

/-- `html.unescape`; `skip` characters of the last match are still to be passed over. -/
def unescapeFrom : Nat → Text → Text
  | _, [] => []
  | skip + 1, _ :: text => unescapeFrom skip text
  | 0, character :: text =>
      if character = '&' then
        match reference entities text with
        | some (characters, size) => characters ++ unescapeFrom size text
        | none => '&' :: unescapeFrom 0 text
      else character :: unescapeFrom 0 text

/-- `html.unescape`. -/
def unescape (text : Text) : Text :=
  unescapeFrom entities 0 text

end Reading

/-! ## Reading what was escaped -/

/-- The replacements after each other replace each character once. -/
theorem escape_eq (text : Text) : escape text = escaping.escape text := by
  simp only [escape, replace, List.flatMap_assoc, Escaping.escape]
  apply List.flatMap_congr
  intro character _
  by_cases ampersand : character = '&'
  · subst ampersand
    rfl
  by_cases less : character = '<'
  · subst less
    rfl
  by_cases greater : character = '>'
  · subst greater
    rfl
  by_cases quote : character = '"'
  · subst quote
    rfl
  by_cases apostrophe : character = '\''
  · subst apostrophe
    rfl
  have plain : escaping.references.lookup character = none := by
    simp [escaping, List.lookup_cons, beq_false_of_ne ampersand, beq_false_of_ne less,
      beq_false_of_ne greater, beq_false_of_ne quote, beq_false_of_ne apostrophe]
  rw [Escaping.escapeChar, plain]
  simp [ampersand, less, greater, quote, apostrophe]

variable (entities : Entities)

/-- A name of the table in front of a semicolon. -/
theorem named_found (name : Text) {characters : Text} (nonempty : name ≠ []) (short : name.length < 32)
    (plain : name.all isNameCharacter = true)
    (found : entities.html5 (name ++ [';']) = some characters) (rest : Text) :
    named entities (name ++ ';' :: rest) = some (characters, name.length + 1) := by
  have room : 32 - name.length = 31 - name.length + 1 := by omega
  have taken : ((name ++ ';' :: rest).take 32).takeWhile isNameCharacter = name := by
    rw [List.take_append, List.take_of_length_le short.le, room, List.take_succ_cons,
      List.takeWhile_append_of_pos (List.all_eq_true.mp plain),
      List.takeWhile_cons_of_neg (by decide), List.append_nil]
  have closed : semicolon ((name ++ ';' :: rest).drop name.length) = 1 := by
    rw [List.drop_left]
    rfl
  have group : (name ++ ';' :: rest).take (name.length + 1) = name ++ [';'] := by
    rw [List.take_length_add_append]
    rfl
  simp only [named, taken, if_neg nonempty, closed, group, found]

/-- The characters of a match are passed over. -/
theorem unescapeFrom_skip (front rest : Text) :
    unescapeFrom entities front.length (front ++ rest) = unescape entities rest := by
  induction front with
  | nil => rfl
  | cons character front induction => exact induction

theorem unescape_reference : ∀ reference ∈ escaping.references, ∀ rest,
    unescape entities (Escaping.written reference.2 ++ rest) =
      reference.1 :: unescape entities rest := by
  have reads : ∀ (name : Text) (character : Char),
      (∀ rest, reference entities (name ++ ';' :: rest) =
        some ([character], name.length + 1)) →
      ∀ rest, unescape entities (Escaping.written name ++ rest) =
        character :: unescape entities rest := by
    intro name character found rest
    have shape : Escaping.written name ++ rest = '&' :: (name ++ ';' :: rest) := by
      simp [Escaping.written]
    rw [shape, unescape, unescapeFrom, if_pos rfl, found]
    have passed := unescapeFrom_skip entities (name ++ [';']) rest
    rw [List.append_assoc, List.length_append] at passed
    exact congrArg (character :: ·) passed
  simp only [escaping, List.forall_mem_cons]
  refine ⟨reads _ _ ?_, reads _ _ ?_, reads _ _ ?_, reads _ _ ?_, reads _ _ ?_, nofun⟩
  · exact named_found entities ['a', 'm', 'p'] (by decide) (by decide) (by decide) entities.amp
  · exact named_found entities ['l', 't'] (by decide) (by decide) (by decide) entities.lt
  · exact named_found entities ['g', 't'] (by decide) (by decide) (by decide) entities.gt
  · exact named_found entities ['q', 'u', 'o', 't'] (by decide) (by decide) (by decide) entities.quot
  · intro rest
    rfl

/-- `html.unescape` gives back any text. -/
theorem unescape_escape (text : Text) : unescape entities (escape text) = text := by
  have copies : ∀ character rest, character ≠ '&' →
      unescape entities (character :: rest) = character :: unescape entities rest := by
    intro character rest other
    rw [unescape, unescapeFrom, if_neg other]
    rfl
  have whole := Escaping.unescape_escape copies (unescape_reference entities) text []
  rw [List.append_nil] at whole
  rw [escape_eq, whole]
  exact List.append_nil text

theorem plain_escape {character : Char} {text : Text} (member : character ∈ escape text) :
    character ≠ '<' ∧ character ≠ '"' := by
  rw [escape_eq] at member
  constructor
  · rintro rfl
    cases Escaping.plain_of_mem_escape member (by decide)
  · rintro rfl
    cases Escaping.plain_of_mem_escape member (by decide)

end Html
