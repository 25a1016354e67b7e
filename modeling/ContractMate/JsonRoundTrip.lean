import ContractMate.JsonText

/-!
# The round trip of JSON texts

A written value is read back, whatever stands after it and whatever blanks the writer
puts after its separators, if every number in it is a number to the reader.  What is
written is one line of ASCII.
-/

namespace JsonText

/-! ## Values -/

section RoundTrip

variable {N M : Type}

/-- A word that stands for no constant. -/
structure IsToken (token : List Char) : Prop where
  nonempty : token ≠ []
  inside : ∀ character ∈ token, isTokenChar character = true
  not_null : token ≠ ['n', 'u', 'l', 'l']
  not_true : token ≠ ['t', 'r', 'u', 'e']
  not_false : token ≠ ['f', 'a', 'l', 's', 'e']

/-- Numbers are written as words, and no key stands twice in one object. -/
def Value.Sound (showNumber : N → List Char) : Value N → Prop
  | .number value => IsToken (showNumber value)
  | .list items => itemsSound items
  | .object fields => (fields.map Prod.fst).Nodup ∧ fieldsSound fields
  | _ => True
where
  itemsSound : List (Value N) → Prop
    | [] => True
    | item :: items => item.Sound showNumber ∧ itemsSound items
  fieldsSound : List (String × Value N) → Prop
    | [] => True
    | (_, value) :: fields => value.Sound showNumber ∧ fieldsSound fields

/-- The same value with other numbers, if every number has its counterpart. -/
def Value.convert (counterpart : N → Option M) : Value N → Option (Value M)
  | .null => some .null
  | .bool value => some (.bool value)
  | .number value => (counterpart value).map .number
  | .text value => some (.text value)
  | .list items => (convertItems items).map .list
  | .object fields => (convertFields fields).map .object
where
  convertItems : List (Value N) → Option (List (Value M))
    | [] => some []
    | item :: items => do
        let item ← item.convert counterpart
        let items ← convertItems items
        some (item :: items)
  convertFields : List (String × Value N) → Option (List (String × Value M))
    | [] => some []
    | (key, value) :: fields => do
        let value ← value.convert counterpart
        let fields ← convertFields fields
        some ((key, value) :: fields)

theorem foldl_insertField {α : Type} (built fields : List (String × α))
    (distinct : ((built ++ fields).map Prod.fst).Nodup) :
    fields.foldl (fun built field => insertField built field.1 field.2) built =
      built ++ fields := by
  induction fields generalizing built with
  | nil => simp
  | cons field fields induction =>
      obtain ⟨key, value⟩ := field
      have fresh : key ∉ built.map Prod.fst := by
        intro member
        rw [List.map_append, List.nodup_append] at distinct
        exact distinct.2.2 key member key (by simp) rfl
      rw [List.foldl_cons, insertField, if_neg fresh]
      have later := induction (built ++ [(key, value)]) (by simpa using distinct)
      simpa using later

/-- Fields without a key twice are a dictionary. -/
theorem dictionary_eq_self {α : Type} {fields : List (String × α)}
    (distinct : (fields.map Prod.fst).Nodup) : dictionary fields = fields :=
  foldl_insertField [] fields distinct

theorem keys_convertFields {counterpart : N → Option M}
    {fields : List (String × Value N)} {converted : List (String × Value M)}
    (all : Value.convert.convertFields counterpart fields = some converted) :
    converted.map Prod.fst = fields.map Prod.fst := by
  induction fields generalizing converted with
  | nil =>
      cases all
      rfl
  | cons field fields induction =>
      obtain ⟨key, value⟩ := field
      simp only [Value.convert.convertFields, Option.bind_eq_bind,
        Option.bind_eq_some_iff, Option.some.injEq] at all
      obtain ⟨value', _, fields', rest, rfl⟩ := all
      simp [induction rest]

theorem visible_of_isTokenChar {character : Char} (inside : isTokenChar character = true) :
    isBlank character = false ∧ character ≠ ']' ∧ character ≠ '[' ∧ character ≠ '{' ∧
      character ≠ '"' := by
  refine ⟨?_, ?_, ?_, ?_, ?_⟩
  · by_contra blank
    simp only [isBlank, Bool.not_eq_false, Bool.or_eq_true, decide_eq_true_eq] at blank
    rcases blank with ((rfl | rfl) | rfl) | rfl <;> simp [isTokenChar] at inside
  all_goals
    rintro rfl
    simp [isTokenChar] at inside

variable {spacing : Spacing} {showNumber : N → List Char}
  {readNumber : List Char → Option M}

variable {value : Value N} {fuel : Nat} {blanks : List Char}

/-- What stands at the front of a written value. -/
theorem write_front (spacing : Spacing) (sound : value.Sound showNumber) :
    ∃ first rest, write spacing showNumber value = first :: rest ∧
      isBlank first = false ∧ first ≠ ']' := by
  match value with
  | .null => exact ⟨_, _, rfl, by decide, by decide⟩
  | .bool true => exact ⟨_, _, rfl, by decide, by decide⟩
  | .bool false => exact ⟨_, _, rfl, by decide, by decide⟩
  | .text _ => exact ⟨_, _, rfl, by decide, by decide⟩
  | .list [] => exact ⟨_, _, rfl, by decide, by decide⟩
  | .list (_ :: _) => exact ⟨_, _, rfl, by decide, by decide⟩
  | .object [] => exact ⟨_, _, rfl, by decide, by decide⟩
  | .object (_ :: _) => exact ⟨_, _, rfl, by decide, by decide⟩
  | .number value =>
      obtain ⟨first, rest, shown⟩ := List.exists_cons_of_ne_nil sound.nonempty
      have inside := sound.inside first (by rw [shown]; exact .head _)
      obtain ⟨visible, notClosing, _⟩ := visible_of_isTokenChar inside
      exact ⟨first, rest, shown, visible, notClosing⟩

/-- A word is a constant or a number. -/
theorem readValue_token {token rest : List Char} (nonempty : token ≠ [])
    (inside : ∀ character ∈ token, isTokenChar character = true) (ends : Ends rest) :
    readValue readNumber (fuel + 1) (token ++ rest) =
      if token = ['n', 'u', 'l', 'l'] then some (.null, rest)
      else if token = ['t', 'r', 'u', 'e'] then some (.bool true, rest)
      else if token = ['f', 'a', 'l', 's', 'e'] then some (.bool false, rest)
      else (readNumber token).bind fun value => some (.number value, rest) := by
  obtain ⟨first, tail, rfl⟩ := List.exists_cons_of_ne_nil nonempty
  obtain ⟨visible, _, noList, noObject, noText⟩ :=
    visible_of_isTokenChar (inside first (.head _))
  obtain ⟨taken, dropped⟩ := splitToken inside ends
  rw [List.cons_append] at taken dropped
  rw [List.cons_append, readValue, skipBlanks_cons visible]
  split
  · rename_i same
    exact absurd (List.cons.inj same).1 noText
  · rename_i same
    exact absurd (List.cons.inj same).1 noList
  · rename_i same
    exact absurd (List.cons.inj same).1 noObject
  · simp only [taken, dropped]
    rfl

theorem readClosed_quoted (key : String)
    (enough : (closed key.toList).length ≤ fuel) (rest : List Char) :
    readClosed fuel (closed key.toList ++ rest) = some (key.toList, rest) :=
  readClosed_closed (Nat.lt_of_lt_of_le (length_lt_closed key.toList) enough) rest

theorem readValue_blanks
    (blank : ∀ character ∈ blanks, isBlank character = true) (fuel : Nat)
    (text : List Char) :
    readValue readNumber fuel (blanks ++ text) = readValue readNumber fuel text := by
  cases fuel with
  | zero => rfl
  | succ fuel => rw [readValue, readValue, skipBlanks_append blank]

theorem readItems_blanks
    (blank : ∀ character ∈ blanks, isBlank character = true) (fuel : Nat)
    (text : List Char) :
    readItems readNumber fuel (blanks ++ text) = readItems readNumber fuel text := by
  cases fuel with
  | zero => rfl
  | succ fuel => rw [readItems, readItems, readValue_blanks blank]

theorem readFields_blanks
    (blank : ∀ character ∈ blanks, isBlank character = true) (fuel : Nat)
    (text : List Char) :
    readFields readNumber fuel (blanks ++ text) = readFields readNumber fuel text := by
  cases fuel with
  | zero => rfl
  | succ fuel => rw [readFields, readFields, skipBlanks_append blank]

theorem ends_writeItems (items : List (Value N)) (rest : List Char) :
    Ends (writeItems spacing showNumber items ++ rest) := by
  cases items <;> exact ends_cons (by decide) _

theorem ends_writeFields (fields : List (String × Value N)) (rest : List Char) :
    Ends (writeFields spacing showNumber fields ++ rest) := by
  rcases fields with _ | ⟨⟨key, value⟩, fields⟩ <;> exact ends_cons (by decide) _

theorem write_pos (spacing : Spacing) (sound : value.Sound showNumber) :
    0 < (write spacing showNumber value).length := by
  obtain ⟨first, rest, shown, _⟩ := write_front spacing sound
  simp [shown]

variable (spacing showNumber readNumber)

/-- What a written number is to the reader. -/
def readBack (value : N) : Option M :=
  readNumber (showNumber value)

/-- With this fuel a written value is read back, whatever stands behind it. -/
def ReadsValues (fuel : Nat) : Prop :=
  ∀ (value : Value N) (rest : List Char), value.Sound showNumber →
    (write spacing showNumber value).length ≤ fuel → Ends rest →
    readValue readNumber fuel (write spacing showNumber value ++ rest) =
      (value.convert (readBack showNumber readNumber)).map fun value => (value, rest)

def ReadsItems (fuel : Nat) : Prop :=
  ∀ (item : Value N) (items : List (Value N)) (rest : List Char),
    item.Sound showNumber → Value.Sound.itemsSound showNumber items →
    (write spacing showNumber item ++ writeItems spacing showNumber items).length ≤ fuel →
    readItems readNumber fuel (write spacing showNumber item ++
        (writeItems spacing showNumber items ++ rest)) =
      (Value.convert.convertItems (readBack showNumber readNumber) (item :: items)).map
        fun items => (items, rest)

def ReadsFields (fuel : Nat) : Prop :=
  ∀ (key : String) (value : Value N) (fields : List (String × Value N))
    (rest : List Char),
    value.Sound showNumber → Value.Sound.fieldsSound showNumber fields →
    (quoted key ++ ':' :: (spacing.afterKey ++ (write spacing showNumber value ++
      writeFields spacing showNumber fields))).length ≤ fuel →
    readFields readNumber fuel (quoted key ++ ':' :: (spacing.afterKey ++
        (write spacing showNumber value ++
          (writeFields spacing showNumber fields ++ rest)))) =
      (Value.convert.convertFields (readBack showNumber readNumber)
        ((key, value) :: fields)).map fun fields => (fields, rest)

variable {spacing showNumber readNumber}

theorem readsValues_succ (readsItems : ReadsItems spacing showNumber readNumber fuel)
    (readsFields : ReadsFields spacing showNumber readNumber fuel) :
    ReadsValues spacing showNumber readNumber (fuel + 1) := by
  intro value rest sound enough ends
  match value with
  | .null => exact readValue_token (List.cons_ne_nil _ _) (by simp [write, isTokenChar]) ends
  | .bool true => exact readValue_token (List.cons_ne_nil _ _) (by simp [write, isTokenChar]) ends
  | .bool false => exact readValue_token (List.cons_ne_nil _ _) (by simp [write, isTokenChar]) ends
  | .number value =>
      rw [write, readValue_token sound.nonempty sound.inside ends, if_neg sound.not_null,
        if_neg sound.not_true, if_neg sound.not_false]
      cases read : readNumber (showNumber value) <;> simp [Value.convert, readBack, read]
  | .text value =>
      simp only [write, quoted, List.length_cons] at enough
      have read := readClosed_quoted value (Nat.le_of_succ_le_succ enough) rest
      rw [write, quoted, List.cons_append, readValue, skipBlanks_cons (by decide)]
      simp only [read, Option.bind_eq_bind, Option.bind_some, String.ofList_toList,
        Value.convert, Option.map_some]
  | .list [] => rfl
  | .list (item :: items) =>
      simp only [write, List.length_cons] at enough
      have inner := readsItems item items rest sound.1 sound.2
        (Nat.le_of_succ_le_succ enough)
      obtain ⟨first, tail, shown, visible, inside⟩ := write_front spacing sound.1
      rw [write, List.cons_append, readValue, skipBlanks_cons (by decide), List.append_assoc]
      rw [shown, List.cons_append] at inner ⊢
      simp only [skipBlanks_cons visible]
      split
      · rename_i same
        exact absurd (List.cons.inj same).1 inside
      · rw [inner, Value.convert]
        cases Value.convert.convertItems (readBack showNumber readNumber)
          (item :: items) <;> rfl
  | .object [] => rfl
  | .object ((key, value) :: fields) =>
      simp only [write, List.length_cons] at enough
      have inner := readsFields key value fields rest sound.2.1 sound.2.2
        (Nat.le_of_succ_le_succ enough)
      rw [write, List.cons_append, readValue, skipBlanks_cons (by decide)]
      simp only [quoted, List.cons_append, List.append_assoc] at inner ⊢
      simp only [skipBlanks_cons (show isBlank '"' = false by decide), inner, Value.convert]
      cases all : Value.convert.convertFields (readBack showNumber readNumber)
          ((key, value) :: fields) with
      | none => rfl
      | some converted =>
          have distinct : (converted.map Prod.fst).Nodup := by
            rw [keys_convertFields all]
            exact sound.1
          simp only [Option.map_some, Option.bind_eq_bind, Option.bind_some,
            dictionary_eq_self distinct]
          rfl

theorem readsItems_succ (readsValues : ReadsValues spacing showNumber readNumber fuel)
    (readsItems : ReadsItems spacing showNumber readNumber fuel) :
    ReadsItems spacing showNumber readNumber (fuel + 1) := by
  intro item items rest sound others enough
  have positive := write_pos spacing sound
  rw [List.length_append] at enough
  have closing : 0 < (writeItems spacing showNumber items).length := by
    cases items <;> simp [writeItems]
  have here := readsValues item (writeItems spacing showNumber items ++ rest)
    sound (by omega) (ends_writeItems items rest)
  rw [readItems, here, Value.convert.convertItems]
  cases item.convert (readBack showNumber readNumber) with
  | none => rfl
  | some converted =>
      cases items with
      | nil => rfl
      | cons next items =>
          simp only [writeItems, List.length_cons, List.length_append] at enough
          have later := readsItems next items rest others.1 others.2
            (by simp only [List.length_append]; omega)
          simp only [writeItems, List.cons_append, List.append_assoc, Option.bind_eq_bind,
            Option.map_some, Option.bind_some,
            skipBlanks_cons (show isBlank ',' = false by decide),
            readItems_blanks spacing.item_blank, later]
          cases Value.convert.convertItems (readBack showNumber readNumber)
            (next :: items) <;> rfl

theorem readsFields_succ (readsValues : ReadsValues spacing showNumber readNumber fuel)
    (readsFields : ReadsFields spacing showNumber readNumber fuel) :
    ReadsFields spacing showNumber readNumber (fuel + 1) := by
  intro key value fields rest sound others enough
  simp only [quoted, List.length_append, List.length_cons] at enough
  have name := readClosed_quoted key (show (closed key.toList).length ≤ fuel by omega)
    (':' :: (spacing.afterKey ++ (write spacing showNumber value ++
      (writeFields spacing showNumber fields ++ rest))))
  have here := readsValues value (writeFields spacing showNumber fields ++ rest)
    sound (by omega) (ends_writeFields fields rest)
  rw [readFields, quoted, List.cons_append, skipBlanks_cons (by decide),
    Value.convert.convertFields]
  simp only [name, Option.bind_eq_bind, Option.bind_some,
    skipBlanks_cons (show isBlank ':' = false by decide),
    readValue_blanks spacing.key_blank, here]
  cases value.convert (readBack showNumber readNumber) with
  | none => rfl
  | some converted =>
      rcases fields with _ | ⟨⟨next, nextValue⟩, fields⟩
      · simp only [writeFields, List.cons_append, List.nil_append, Option.map_some,
          Option.bind_some, skipBlanks_cons (show isBlank '}' = false by decide),
          String.ofList_toList, Value.convert.convertFields]
      · simp only [writeFields, List.length_cons, List.length_append] at enough
        have later := readsFields next nextValue fields rest others.1 others.2
          (by simp only [List.length_append, List.length_cons]; omega)
        simp only [writeFields, List.cons_append, List.append_assoc, Option.map_some,
          Option.bind_some, skipBlanks_cons (show isBlank ',' = false by decide),
          readFields_blanks spacing.item_blank, later, String.ofList_toList]
        cases Value.convert.convertFields (readBack showNumber readNumber)
          ((next, nextValue) :: fields) <;> rfl

/-- The induction is on the fuel, which every call of the reader spends. -/
theorem reads_all (fuel : Nat) :
    ReadsValues spacing showNumber readNumber fuel ∧
      ReadsItems spacing showNumber readNumber fuel ∧
      ReadsFields spacing showNumber readNumber fuel := by
  induction fuel with
  | zero =>
      refine ⟨?_, ?_, ?_⟩
      · intro value rest sound enough
        have positive := write_pos spacing sound
        omega
      · intro item items rest sound _ enough
        have positive := write_pos spacing sound
        rw [List.length_append] at enough
        omega
      · intro key value fields rest _ _ enough
        simp [quoted] at enough
  | succ fuel induction =>
      obtain ⟨values, items, fields⟩ := induction
      exact ⟨readsValues_succ items fields, readsItems_succ values items,
        readsFields_succ values fields⟩

/-- What is written is what is read, if every number is a number to the reader. -/
theorem read_write (sound : value.Sound showNumber) :
    read readNumber (write spacing showNumber value) =
      value.convert (readBack showNumber readNumber) := by
  have reads : ReadsValues spacing showNumber readNumber
      (2 * (write spacing showNumber value).length + 1) := (reads_all _).1
  have whole := reads value [] sound (by omega) ends_nil
  rw [List.append_nil] at whole
  rw [read, whole]
  cases value.convert (readBack showNumber readNumber) <;> rfl

end RoundTrip

theorem isToken_writeInt (value : Int) : IsToken (writeInt value) := by
  have start (letter : Char) (rest : List Char) (noDigit : letter.isDigit = false)
      (noSign : letter ≠ '-') : writeInt value ≠ letter :: rest := by
    intro same
    rw [writeInt] at same
    split_ifs at same
    · exact noSign (List.cons.inj same).1.symm
    · have member : letter ∈ Nat.toDigits 10 value.natAbs := by simp [same]
      have digit := Nat.isDigit_of_mem_toDigits (by decide) (by decide) member
      simp [noDigit] at digit
  refine ⟨?_, ?_, start _ _ (by decide) (by decide), start _ _ (by decide) (by decide),
    start _ _ (by decide) (by decide)⟩
  · rw [writeInt]
    split_ifs
    · exact List.cons_ne_nil _ _
    · exact Nat.toDigits_ne_nil
  · have digits (character : Char) (member : character ∈ Nat.toDigits 10 value.natAbs) :
        isTokenChar character = true := by
      have digit : character.isDigit = true :=
        Nat.isDigit_of_mem_toDigits (by decide) (by decide) member
      simp [isTokenChar, Char.isAlphanum, digit]
    rw [writeInt]
    split_ifs
    · intro character member
      rcases List.mem_cons.mp member with rfl | member
      · decide
      · exact digits character member
    · exact digits

/-! ## What a written value is made of -/

/-- A visible ASCII character or the space. -/
def isPrintable (character : Char) : Bool :=
  0x20 ≤ character.toNat && character.toNat < 0x7F

theorem printable_digitChar {value : Nat} (small : value < 16) :
    isPrintable (Nat.digitChar value) = true := by
  have all : ∀ value < 16, isPrintable (Nat.digitChar value) = true := by decide
  exact all value small

theorem printable_unicodeEscape (unit : Nat) :
    ∀ character ∈ unicodeEscape unit, isPrintable character = true := by
  have digit (value : Nat) : isPrintable (Nat.digitChar (value % 16)) = true :=
    printable_digitChar (Nat.mod_lt _ (by decide))
  simp only [unicodeEscape, unitDigits, List.mem_cons, List.not_mem_nil, or_false]
  rintro character (rfl | rfl | rfl | rfl | rfl | rfl)
  · decide
  · decide
  all_goals exact digit _

theorem printable_escape (character : Char) :
    ∀ written ∈ escape character, isPrintable written = true := by
  have short (letter : Char) (printable : isPrintable letter = true) :
      ∀ written ∈ ['\\', letter], isPrintable written = true := by
    intro written member
    simp only [List.mem_cons, List.not_mem_nil, or_false] at member
    rcases member with rfl | rfl
    · decide
    · exact printable
  rw [escape]
  split_ifs with _ _ _ _ _ _ _ plain
  iterate 7 exact short _ (by decide)
  · intro written member
    rw [List.mem_singleton.mp member]
    simpa [isPrintable] using plain
  · exact printable_unicodeEscape _
  · intro written member
    rcases List.mem_append.mp member with high | low
    · exact printable_unicodeEscape _ written high
    · exact printable_unicodeEscape _ written low

theorem printable_quoted (text : String) :
    ∀ character ∈ quoted text, isPrintable character = true := by
  intro character member
  simp only [quoted, closed, List.mem_cons, List.mem_append, List.mem_flatMap,
    List.not_mem_nil, or_false] at member
  rcases member with rfl | ⟨original, _, member⟩ | rfl
  · decide
  · exact printable_escape original character member
  · decide

theorem printable_of_isTokenChar {character : Char}
    (inside : isTokenChar character = true) : isPrintable character = true := by
  simp only [isTokenChar, Char.isAlphanum, Char.isAlpha, Char.isUpper, Char.isLower,
    Char.isDigit, Bool.or_eq_true, Bool.and_eq_true, decide_eq_true_eq, ge_iff_le,
    UInt32.le_iff_toNat_le, Char.reduceVal, UInt32.reduceToNat] at inside
  rw [isPrintable, Bool.and_eq_true, decide_eq_true_eq, decide_eq_true_eq, Char.toNat]
  rcases inside with ((((upper | lower) | digit) | rfl) | rfl) | rfl
  · omega
  · omega
  · omega
  all_goals decide

section Lines

variable {N : Type} {spacing : Spacing} {showNumber : N → List Char}

/-- The blanks after the separators are no line breaks. -/
def Spacing.OneLine (spacing : Spacing) : Prop :=
  ∀ character ∈ spacing.afterItem ++ spacing.afterKey, isPrintable character = true

theorem Spacing.OneLine.item (oneLine : spacing.OneLine) {character : Char}
    (member : character ∈ spacing.afterItem) : isPrintable character = true :=
  oneLine character (List.mem_append_left _ member)

theorem Spacing.OneLine.key (oneLine : spacing.OneLine) {character : Char}
    (member : character ∈ spacing.afterKey) : isPrintable character = true :=
  oneLine character (List.mem_append_right _ member)

/-- A writer without line breaks after its separators writes one line of ASCII. -/
theorem printable_write (oneLine : spacing.OneLine) :
    ∀ value : Value N, value.Sound showNumber →
      ∀ character ∈ write spacing showNumber value, isPrintable character = true
  | .null, _ => by simp [write, isPrintable]
  | .bool true, _ => by simp [write, isPrintable]
  | .bool false, _ => by simp [write, isPrintable]
  | .number value, sound => fun character member =>
      printable_of_isTokenChar (sound.inside character member)
  | .text value, _ => printable_quoted value
  | .list [], _ => by simp [write, isPrintable]
  | .list (item :: items), sound => by
      intro character member
      simp only [write, List.mem_cons, List.mem_append] at member
      rcases member with rfl | first | others
      · decide
      · exact printable_write oneLine item sound.1 character first
      · exact printable_writeItems oneLine items sound.2 character others
  | .object [], _ => by simp [write, isPrintable]
  | .object ((key, value) :: fields), sound => by
      intro character member
      simp only [write, List.mem_cons, List.mem_append] at member
      rcases member with rfl | name | rfl | blank | first | others
      · decide
      · exact printable_quoted key character name
      · decide
      · exact oneLine.key blank
      · exact printable_write oneLine value sound.2.1 character first
      · exact printable_writeFields oneLine fields sound.2.2 character others
where
  printable_writeItems (oneLine : spacing.OneLine) :
      ∀ items : List (Value N), Value.Sound.itemsSound showNumber items →
        ∀ character ∈ writeItems spacing showNumber items, isPrintable character = true
    | [], _ => by simp [writeItems, isPrintable]
    | item :: items, sound => by
        intro character member
        simp only [writeItems, List.mem_cons, List.mem_append] at member
        rcases member with rfl | blank | first | others
        · decide
        · exact oneLine.item blank
        · exact printable_write oneLine item sound.1 character first
        · exact printable_writeItems oneLine items sound.2 character others
  printable_writeFields (oneLine : spacing.OneLine) :
      ∀ fields : List (String × Value N), Value.Sound.fieldsSound showNumber fields →
        ∀ character ∈ writeFields spacing showNumber fields, isPrintable character = true
    | [], _ => by simp [writeFields, isPrintable]
    | (key, value) :: fields, sound => by
        intro character member
        simp only [writeFields, List.mem_cons, List.mem_append] at member
        rcases member with rfl | blank | name | rfl | blank | first | others
        · decide
        · exact oneLine.item blank
        · exact printable_quoted key character name
        · decide
        · exact oneLine.key blank
        · exact printable_write oneLine value sound.1 character first
        · exact printable_writeFields oneLine fields sound.2 character others

end Lines

end JsonText
