import ContractMate.ChatStream

/-!
# The blocks of chat streams

What is streamed is printable ASCII apart from its line breaks, so that the client finds
the blocks of the server and their two lines again.  No read leaves a blank line in the
buffer that it should have cut at.
-/

namespace ContractMate

namespace ChatStream

open JsonText (Value isPrintable)
open TextSplitting

variable {D : Type} (doubles : Doubles D)

/-! ## Payloads -/

theorem isToken_constant (word : List Char) (inside : word.all JsonText.isTokenChar = true)
    (other : word ∉ [[], ['n', 'u', 'l', 'l'], ['t', 'r', 'u', 'e'],
      ['f', 'a', 'l', 's', 'e']]) : JsonText.IsToken word := by
  simp only [List.mem_cons, List.not_mem_nil, or_false, not_or] at other
  exact ⟨other.1, List.all_eq_true.mp inside, other.2.1, other.2.2.1, other.2.2.2⟩

theorem isToken_numberText (number : PythonNumber D) :
    JsonText.IsToken (doubles.numberText number) := by
  cases number with
  | inl value => exact JsonText.isToken_writeInt value
  | inr double =>
      rw [Doubles.numberText, Doubles.floatstr]
      cases kind : doubles.kind double with
      | finite => exact JsonText.isToken_of_isNumber (doubles.isNumber_repr double kind)
      | nan => exact isToken_constant "NaN".toList (by decide) (by decide)
      | infinity => exact isToken_constant "Infinity".toList (by decide) (by decide)
      | negativeInfinity => exact isToken_constant "-Infinity".toList (by decide) (by decide)

theorem readBack_numberText (number : PythonNumber D) :
    JsonText.readBack doubles.numberText (JsonText.numberWith doubles.nearest) number =
      if doubles.finiteNumber number then some (doubles.toDouble number) else none := by
  cases number with
  | inl value =>
      rw [JsonText.readBack, Doubles.numberText, JsonText.numberWith,
        if_pos (JsonText.isNumber_writeInt value)]
      rfl
  | inr double =>
      rw [JsonText.readBack, Doubles.numberText, Doubles.floatstr, JsonText.numberWith,
        Doubles.finiteNumber, Doubles.isFinite, Doubles.toDouble]
      cases kind : doubles.kind double with
      | finite =>
          simp only [doubles.isNumber_repr double kind, doubles.nearest_repr double kind,
            decide_true]
      | nan | infinity | negativeInfinity => rfl

/-- `JSON.parse` of what `json.dumps` writes. -/
theorem jsonParse_write {payload : Value (PythonNumber D)} (keyed : payload.Keyed) :
    doubles.jsonParse (JsonText.write .compact doubles.numberText payload) =
      if payload.allNumbers doubles.finiteNumber then
        some (payload.map doubles.toDouble)
      else none := by
  have sound := keyed.sound (isToken_numberText doubles)
  rw [Doubles.jsonParse, JsonText.read_write sound,
    JsonText.convert_eq (readBack_numberText doubles)]

theorem keyed_dictionaries (items : List (Dictionary D)) : (dictionaries items).Keyed := by
  induction items with
  | nil => trivial
  | cons item items induction => exact ⟨item.keyed, induction⟩

theorem keyed_payload (event : ChatEvent D) : event.payload.Keyed := by
  cases event with
  | status text | delta text => simp [ChatEvent.payload, Value.Keyed, Value.Keyed.fieldsKeyed]
  | sources items =>
      have inner := keyed_dictionaries items
      simpa [ChatEvent.payload, Value.Keyed, Value.Keyed.fieldsKeyed] using inner
  | completed message =>
      have inner := keyed_dictionaries message.citations
      simpa [ChatEvent.payload, chatMessageResponse, Value.Keyed, Value.Keyed.fieldsKeyed]
        using inner

theorem keyed_errorPayload : (errorPayload : Value (PythonNumber D)).Keyed := by
  simp [errorPayload, Value.Keyed, Value.Keyed.fieldsKeyed]

theorem map_dictionaries (items : List (Dictionary D)) :
    (dictionaries items).map doubles.toDouble =
      .list (items.map fun item => (Value.object item.fields).map doubles.toDouble) := by
  rw [dictionaries, Value.map]
  congr 1
  induction items with
  | nil => rfl
  | cons item items induction =>
      rw [List.map_cons, List.map_cons, Value.map.mapItems, induction]

/-! ## Unfinished blank lines -/

theorem cutLine_append {text rest : List Char} (found : cutLine text = some rest)
    (more : List Char) : cutLine (text ++ more) = some (rest ++ more) := by
  rw [cutLine.eq_def] at found
  split at found
  · cases found
    rfl
  · cases found
    rfl
  · simp at found

theorem text_of_cutLine {text rest : List Char} (found : cutLine text = some rest) :
    text = '\r' :: '\n' :: rest ∨ text = '\n' :: rest := by
  rw [cutLine.eq_def] at found
  split at found
  · cases found
    exact .inl rfl
  · cases found
    exact .inr rfl
  · simp at found

/-- What a text may have of a line break that is not complete. -/
theorem unfinished_line {text more rest : List Char} (absent : cutLine text = none)
    (present : cutLine (text ++ more) = some rest) : text = [] ∨ text = ['\r'] := by
  cases text with
  | nil => exact .inl rfl
  | cons first text =>
      refine .inr ?_
      rcases text_of_cutLine present with same | same
      · obtain ⟨rfl, later⟩ := List.cons.inj same
        cases text with
        | nil => rfl
        | cons second text =>
            rw [(List.cons.inj later).1] at absent
            simp [cutLine] at absent
      · obtain ⟨rfl, _⟩ := List.cons.inj same
        simp [cutLine] at absent

theorem steady_blankLine : blankLine.Steady where
  stays text rest more found := by
    obtain ⟨middle, first, second⟩ := Option.bind_eq_some_iff.mp found
    exact Option.bind_eq_some_iff.mpr
      ⟨middle ++ more, cutLine_append first more, cutLine_append second more⟩
  unfinished text more absent present := by
    obtain ⟨rest, present⟩ := Option.ne_none_iff_exists'.mp present
    obtain ⟨middle, first, second⟩ := Option.bind_eq_some_iff.mp present
    have single (word : List Char) (short : word ∈ [[], ['\r'], ['\n'], ['\n', '\r'],
        ['\r', '\n'], ['\r', '\n', '\r']]) : blankLine.split word = [word] := by
      simp only [List.mem_cons, List.not_mem_nil, or_false] at short
      rcases short with rfl | rfl | rfl | rfl | rfl | rfl
      · simp
      iterate 2 rw [Separator.split_cons rfl, Separator.split_nil]; rfl
      iterate 2
        rw [Separator.split_cons rfl, Separator.split_cons rfl, Separator.split_nil]
        rfl
      · rw [Separator.split_cons rfl, Separator.split_cons rfl, Separator.split_cons rfl,
          Separator.split_nil]
        rfl
    apply single
    cases line : cutLine text with
    | none =>
        rcases unfinished_line line first with rfl | rfl
        · decide
        · decide
    | some after =>
        have inner : cutLine after = none := by
          have none : cutBlock text = none := absent
          rwa [cutBlock, line] at none
        have joined := cutLine_append line more
        rw [first] at joined
        rw [Option.some.inj joined] at second
        rcases text_of_cutLine line with rfl | rfl <;>
          rcases unfinished_line inner second with rfl | rfl <;> decide

/-! ## The blocks of a stream -/

theorem cutLine_printable {character : Char} (printable : isPrintable character = true)
    (text : List Char) : cutLine (character :: text) = none := by
  rw [cutLine.eq_def]
  split
  · rename_i same
    simp [(List.cons.inj same).1, isPrintable] at printable
  · rename_i same
    simp [(List.cons.inj same).1, isPrintable] at printable
  · rfl

theorem cutBlock_printable {character : Char} (printable : isPrintable character = true)
    (text : List Char) : cutBlock (character :: text) = none := by
  rw [cutBlock, cutLine_printable printable]
  rfl

theorem cutLine_newline (text : List Char) : cutLine ('\n' :: text) = some text :=
  rfl

theorem cutBlock_newline {character : Char} (printable : isPrintable character = true)
    (text : List Char) : cutBlock ('\n' :: character :: text) = none := by
  rw [cutBlock, cutLine_newline, Option.bind_some, cutLine_printable printable]

theorem split_newline (text : List Char) :
    lineBreak.split ('\n' :: text) = [] :: lineBreak.split text :=
  Separator.split_cut (cutLine_newline text)

theorem split_blank (text : List Char) :
    blankLine.split ('\n' :: '\n' :: text) = [] :: blankLine.split text :=
  Separator.split_cut rfl

/-- Two lines and the blank line after them. -/
theorem joined (first second rest : List Char) :
    (first ++ '\n' :: second) ++ ['\n', '\n'] ++ rest =
      first ++ '\n' :: (second ++ '\n' :: '\n' :: rest) := by
  simp

theorem attach_lines (first second : List Char) (parts : List (List Char)) :
    attach first (attach ['\n'] (attach second ([] :: parts))) =
      (first ++ '\n' :: second) :: parts := by
  simp [attach]

theorem attach_two (first second : List Char) :
    attach first [[], second] = [first, second] := by
  simp [attach]

theorem eventField_eq : eventField = ['e', 'v', 'e', 'n', 't', ':', ' '] := by decide

theorem dataField_eq : dataField = ['d', 'a', 't', 'a', ':', ' '] := by decide

section Printable

variable {separator : Separator Char} (visible : ∀ {character : Char},
  isPrintable character = true → ∀ text, separator.cut (character :: text) = none)
  {line : List Char} (printable : ∀ character ∈ line, isPrintable character = true)
include visible printable

theorem split_printable (text : List Char) :
    separator.split (line ++ text) = attach line (separator.split text) :=
  Separator.split_front fun symbol later inside =>
    visible (printable symbol (inside.subset (.head later))) _

theorem split_last : separator.split line = [line] := by
  have whole := split_printable visible printable []
  rwa [List.append_nil, Separator.split_nil, attach, List.append_nil] at whole

end Printable

/-- The name of an event: visible characters, no space around them and no underscore. -/
structure EventName (name : String) : Prop where
  nonempty : name ≠ ""
  printable : ∀ character ∈ name.toList, isPrintable character = true
  trimmed : trim (' ' :: name.toList) = name.toList
  dotted : dotted name.toList = name.toList

theorem EventName.of_check {name : String} (nonempty : name ≠ "")
    (printable : name.toList.all isPrintable = true)
    (same : trim (' ' :: name.toList) = name.toList ∧
      ChatStream.dotted name.toList = name.toList) : EventName name :=
  ⟨nonempty, List.all_eq_true.mp printable, same.1, same.2⟩

theorem eventName_of (event : ChatEvent D) : EventName event.name := by
  cases event with
  | status text =>
      change EventName "message.status"
      exact .of_check (by decide) (by decide) (by decide)
  | delta text =>
      change EventName "message.delta"
      exact .of_check (by decide) (by decide) (by decide)
  | sources items =>
      change EventName "message.sources"
      exact .of_check (by decide) (by decide) (by decide)
  | completed message =>
      change EventName "message.completed"
      exact .of_check (by decide) (by decide) (by decide)

theorem eventName_error : EventName "error" :=
  .of_check (by decide) (by decide) (by decide)

theorem EventName.printable_line {name : String} (named : EventName name) :
    ∀ character ∈ eventField ++ name.toList, isPrintable character = true := by
  intro character member
  rcases List.mem_append.mp member with front | member
  · exact List.all_eq_true.mp (by decide) character front
  · exact named.printable character member

section Block

variable {payload : Value (PythonNumber D)} (keyed : payload.Keyed)
include keyed

theorem printable_dataLine :
    ∀ character ∈ dataField ++ JsonText.write .compact doubles.numberText payload,
      isPrintable character = true := by
  intro character member
  rcases List.mem_append.mp member with front | member
  · exact List.all_eq_true.mp (by decide) character front
  · have oneLine : JsonText.Spacing.compact.OneLine := nofun
    exact JsonText.printable_write oneLine payload
      (keyed.sound (isToken_numberText doubles)) character member

/-- A block ends at the first blank line. -/
theorem split_sseEvent {name : String} (named : EventName name) (rest : List Char) :
    blankLine.split (sseEvent doubles name payload ++ rest) =
      block doubles name payload :: blankLine.split rest := by
  have lines : sseEvent doubles name payload ++ rest =
      (eventField ++ name.toList) ++ '\n' ::
        ((dataField ++ JsonText.write .compact doubles.numberText payload) ++
          '\n' :: '\n' :: rest) :=
    joined _ _ rest
  have middle : cutBlock ('\n' ::
      ((dataField ++ JsonText.write .compact doubles.numberText payload) ++
        '\n' :: '\n' :: rest)) = none := by
    rw [dataField_eq]
    exact cutBlock_newline (by decide) _
  rw [lines, split_printable cutBlock_printable named.printable_line,
    Separator.split_cons middle,
    split_printable cutBlock_printable (printable_dataLine doubles keyed), split_blank]
  exact attach_lines _ _ _

/-- The two lines of a block. -/
theorem split_block {name : String} (named : EventName name) :
    lineBreak.split (block doubles name payload) =
      [eventField ++ name.toList,
        dataField ++ JsonText.write .compact doubles.numberText payload] := by
  rw [block, split_printable cutLine_printable named.printable_line, split_newline,
    split_last cutLine_printable (printable_dataLine doubles keyed)]
  exact attach_two _ _

end Block

end ChatStream

end ContractMate
