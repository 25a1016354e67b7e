import ContractMate.HtmlText

/-!
# Templates of HTML

The states of a tokenizer that an HTML document without comments, unquoted values and raw
text goes through.  Escaped text does not leave the state that it begins in, so that the
tags and attributes of a template do not depend on what is filled in.
-/

namespace Html

open PythonText

/-! ## Tokens -/

/-- What the tokenizer reports. -/
inductive Event where
  | doctype
  | startTag (name : Text)
  | attributeStart (name : Text)
  | value (name : Text) (character : Char)
  | startTagEnd
  | endTag (name : Text)
  | character (character : Char)
deriving DecidableEq, Repr

inductive State where
  | data
  | tagOpen
  | declaration (text : Text)
  | endTagName (name : Text)
  | tagName (name : Text)
  | beforeAttribute
  | attributeName (name : Text)
  | beforeValue (name : Text)
  | value (name : Text)
  | afterValue
deriving DecidableEq, Repr

def isNameCharacterOfTag (character : Char) : Bool :=
  character.isLower || character.isDigit

/-- The elements whose content is not read as HTML. -/
def rawTextElements : List Text :=
  ["iframe".toList, "noembed".toList, "noframes".toList, "noscript".toList,
    "plaintext".toList, "script".toList, "style".toList, "textarea".toList, "title".toList,
    "xmp".toList]

/-- One character, or nothing where the document is not of the kind that is read here. -/
def step : State → Char → Option (State × List Event)
  | .data, '<' => some (.tagOpen, [])
  | .data, character => some (.data, [.character character])
  | .tagOpen, '!' => some (.declaration [], [])
  | .tagOpen, '/' => some (.endTagName [], [])
  | .tagOpen, character =>
      if character.isLower then some (.tagName [character], []) else none
  | .declaration text, '>' =>
      if text = "doctype html".toList then some (.data, [.doctype]) else none
  | .declaration text, character => some (.declaration (text ++ [character]), [])
  | .endTagName name, '>' => if name = [] then none else some (.data, [.endTag name])
  | .endTagName name, character =>
      if isNameCharacterOfTag character then some (.endTagName (name ++ [character]), [])
      else none
  | .tagName name, ' ' =>
      if name ∈ rawTextElements then none else some (.beforeAttribute, [.startTag name])
  | .tagName name, '>' =>
      if name ∈ rawTextElements then none else some (.data, [.startTag name, .startTagEnd])
  | .tagName name, character =>
      if isNameCharacterOfTag character then some (.tagName (name ++ [character]), [])
      else none
  | .beforeAttribute, ' ' => some (.beforeAttribute, [])
  | .beforeAttribute, '>' => some (.data, [.startTagEnd])
  | .beforeAttribute, character =>
      if character.isLower then some (.attributeName [character], []) else none
  | .attributeName name, '=' => some (.beforeValue name, [])
  | .attributeName name, character =>
      if isNameCharacterOfTag character || character = '-' then
        some (.attributeName (name ++ [character]), [])
      else none
  | .beforeValue name, '"' => some (.value name, [.attributeStart name])
  | .beforeValue _, _ => none
  | .value _, '"' => some (.afterValue, [])
  | .value name, character => some (.value name, [.value name character])
  | .afterValue, ' ' => some (.beforeAttribute, [])
  | .afterValue, '>' => some (.data, [.startTagEnd])
  | .afterValue, _ => none

def scan : State → Text → Option (State × List Event)
  | state, [] => some (state, [])
  | state, character :: text => do
      let (state, events) ← step state character
      let (state, later) ← scan state text
      some (state, events ++ later)

/-- The events of a whole document. -/
def tokenize (document : Text) : Option (List Event) :=
  match scan .data document with
  | some (.data, events) => some events
  | _ => none

/-! ## Templates -/

theorem escape_digits (number : Nat) :
    escape (Nat.toDigits 10 number) = Nat.toDigits 10 number := by
  have plain : ∀ digit ∈ Nat.toDigits 10 number, escaping.escapeChar digit = [digit] := by
    intro digit member
    have decimal := Nat.isDigit_of_mem_toDigits (by decide) (by decide) member
    rw [Escaping.escapeChar]
    cases found : escaping.references.lookup digit with
    | none => rfl
    | some name =>
        have none_special : ∀ reference ∈ escaping.references,
            reference.1.isDigit = false := by
          decide
        rw [none_special _ (Escaping.mem_references found)] at decimal
        cases decimal
  rw [escape_eq, Escaping.escape, List.flatMap_congr plain]
  exact List.flatMap_singleton' _

/-- A part of a template: text of its own, or a field whose value is shown escaped. -/
inductive Piece where
  | own (text : String)
  | field (value shown : Text) (escapes : shown = escape value)
deriving DecidableEq

abbrev Template := List Piece

namespace Piece

def escaped (value : Text) : Piece :=
  field value (escape value) rfl

/-- The digits of a number need no escaping. -/
def number (value : Nat) : Piece :=
  field (Nat.toDigits 10 value) (Nat.toDigits 10 value) (escape_digits value).symm

def text : Piece → Text
  | own text => text.toList
  | field _ shown _ => shown

def value? : Piece → Option Text
  | own _ => none
  | field value _ _ => some value

/-- The piece with its field left empty. -/
def outline : Piece → Piece
  | own text => own text
  | field .. => escaped []

end Piece

namespace Template

def text (template : Template) : Text :=
  template.flatMap Piece.text

def fields (template : Template) : List Text :=
  template.filterMap Piece.value?

def outline (template : Template) : Template :=
  template.map Piece.outline

end Template

/-- Where a field may stand. -/
inductive Place where
  | text
  | value (name : Text)
deriving DecidableEq, Repr

def Place.event : Place → Char → Event
  | text => .character
  | value name => .value name

/-- What is reported of a piece. -/
inductive Part where
  | own (events : List Event)
  | filled (place : Place) (content : Text)
deriving DecidableEq, Repr

namespace Part

def events : Part → List Event
  | own events => events
  | filled place content => content.map place.event

def content? : Part → Option Text
  | own _ => none
  | filled _ content => some content

def outline : Part → Part
  | own events => own events
  | filled place _ => filled place []

end Part

section Reading

variable (links : List Text)

/-- Fields stand in the text of elements and in the attributes with links. -/
def State.place? : State → Option Place
  | data => some .text
  | value name => if name ∈ links then some (.value name) else none
  | _ => none

/-- The tags with the names and the values of their attributes, except for links. -/
def Event.isTag : Event → Bool
  | character _ => false
  | value name _ => name ∉ links
  | _ => true

def read : State → Template → Option (State × List Part)
  | state, [] => some (state, [])
  | state, .own text :: template => do
      let (state, events) ← scan state text.toList
      let (state, parts) ← read state template
      some (state, .own events :: parts)
  | state, .field _ shown _ :: template => do
      let place ← state.place? links
      let (state, parts) ← read state template
      some (state, .filled place shown :: parts)

/-- Text whose tokens are those of the parts, the contents of which are read as the
fields. -/
def Fills (entities : Entities) (document : Text) (parts : List Part)
    (fields : List Text) : Prop :=
  tokenize document = some (parts.flatMap Part.events) ∧
    (parts.filterMap Part.content?).map (unescape entities) = fields

end Reading

/-! ## Outlines -/

section Outlines

variable {α : Type}

@[simp]
theorem outline_append (front back : Template) :
    (front ++ back).outline = front.outline ++ back.outline :=
  List.map_append

@[simp]
theorem fields_append (front back : Template) :
    (front ++ back).fields = front.fields ++ back.fields :=
  List.filterMap_append

theorem fields_flatMap (entries : List α) (piece : α → Template) :
    Template.fields (entries.flatMap piece) =
      entries.flatMap fun entry => (piece entry).fields := by
  induction entries with
  | nil => rfl
  | cons entry entries induction =>
      rw [List.flatMap_cons, fields_append, induction, List.flatMap_cons]

/-- Entries that agree in what the outline depends on. -/
theorem outline_flatMap_congr {Key : Type} {piece : α → Template} {key : α → Key}
    (agree : ∀ first second, key first = key second →
      (piece first).outline = (piece second).outline)
    {first second : List α} (same : first.map key = second.map key) :
    Template.outline (first.flatMap piece) = Template.outline (second.flatMap piece) := by
  induction first generalizing second with
  | nil =>
      rw [List.map_nil, eq_comm, List.map_eq_nil_iff] at same
      rw [same]
  | cons entry first induction =>
      cases second with
      | nil => cases same
      | cons other second =>
          rw [List.map_cons, List.map_cons, List.cons.injEq] at same
          rw [List.flatMap_cons, List.flatMap_cons, outline_append, outline_append,
            agree _ _ same.1, induction same.2]

theorem outline_flatMap_length {piece : α → Template}
    (agree : ∀ first second, (piece first).outline = (piece second).outline)
    {first second : List α} (same : first.length = second.length) :
    Template.outline (first.flatMap piece) = Template.outline (second.flatMap piece) := by
  have keys : first.map (fun _ => ()) = second.map fun _ => () := by
    rw [List.map_const', List.map_const', same]
  exact outline_flatMap_congr (fun first second _ => agree first second) keys

theorem eq_nil_of_outline {first second : Template} (same : first.outline = second.outline) :
    first = [] ↔ second = [] := by
  rw [← List.map_eq_nil_iff, ← List.map_eq_nil_iff (l := second)]
  rw [Template.outline, Template.outline] at same
  rw [same]

end Outlines

/-! ## Scanning -/

theorem scan_append {state middle final : State} {front back : Text}
    {first second : List Event} (scans : scan state front = some (middle, first))
    (goes_on : scan middle back = some (final, second)) :
    scan state (front ++ back) = some (final, first ++ second) := by
  induction front generalizing state first with
  | nil =>
      cases scans
      exact goes_on
  | cons character front induction =>
      simp only [scan, Option.bind_eq_bind, Option.bind_eq_some_iff, Prod.exists,
        Option.some.injEq, Prod.mk.injEq] at scans
      obtain ⟨next, events, steps, _, later, scans, rfl, rfl⟩ := scans
      rw [List.cons_append, scan, steps]
      simp [induction scans]

/-- Content stays where it is. -/
theorem step_content {links : List Text} {state : State} {place : Place}
    (stands : state.place? links = some place) {character : Char} (notTag : character ≠ '<')
    (notQuote : character ≠ '"') :
    step state character = some (state, [place.event character]) := by
  cases state with
  | data =>
      cases stands
      rw [step]
      · rfl
      · exact notTag
  | value name =>
      simp only [State.place?, Option.ite_none_right_eq_some, Option.some.injEq] at stands
      obtain ⟨_, rfl⟩ := stands
      rw [step]
      · rfl
      · exact notQuote
  | _ => cases stands

theorem scan_content {links : List Text} {state : State} {place : Place}
    (stands : state.place? links = some place) {content : Text}
    (plain : ∀ character ∈ content, character ≠ '<' ∧ character ≠ '"') :
    scan state content = some (state, content.map place.event) := by
  induction content with
  | nil => rfl
  | cons character content induction =>
      obtain ⟨notTag, notQuote⟩ := plain character (List.mem_cons_self ..)
      have later := induction fun _ member => plain _ (List.mem_cons_of_mem _ member)
      rw [scan, step_content stands notTag notQuote]
      simp [later]

section Templates

variable {links : List Text} {state middle final : State} {template : Template}
  {parts : List Part}

theorem read_own {text : String} :
    read links state (.own text :: template) = some (final, parts) ↔
      ∃ middle events later, scan state text.toList = some (middle, events) ∧
        read links middle template = some (final, later) ∧ parts = .own events :: later := by
  simp only [read, Option.bind_eq_bind, Option.bind_eq_some_iff, Prod.exists,
    Option.some.injEq, Prod.mk.injEq]
  constructor
  · rintro ⟨middle, events, scans, _, later, reads, rfl, rfl⟩
    exact ⟨middle, events, later, scans, reads, rfl⟩
  · rintro ⟨middle, events, later, scans, reads, rfl⟩
    exact ⟨middle, events, scans, final, later, reads, rfl, rfl⟩

theorem read_field {value shown : Text} {escapes : shown = escape value} :
    read links state (.field value shown escapes :: template) = some (final, parts) ↔
      ∃ place later, state.place? links = some place ∧
        read links state template = some (final, later) ∧
          parts = .filled place shown :: later := by
  simp only [read, Option.bind_eq_bind, Option.bind_eq_some_iff, Prod.exists,
    Option.some.injEq, Prod.mk.injEq]
  constructor
  · rintro ⟨place, stands, _, later, reads, rfl, rfl⟩
    exact ⟨place, later, stands, reads, rfl⟩
  · rintro ⟨place, later, stands, reads, rfl⟩
    exact ⟨place, stands, final, later, reads, rfl, rfl⟩

theorem read_append {front back : Template} {later : List Part}
    (reads : read links state front = some (middle, parts))
    (goes_on : read links middle back = some (final, later)) :
    read links state (front ++ back) = some (final, parts ++ later) := by
  induction front generalizing state parts with
  | nil =>
      cases reads
      exact goes_on
  | cons piece front induction =>
      cases piece with
      | own text =>
          obtain ⟨next, events, rest, scans, continues, rfl⟩ := read_own.mp reads
          exact read_own.mpr ⟨next, events, rest ++ later, scans, induction continues, rfl⟩
      | field value shown escapes =>
          obtain ⟨place, rest, stands, continues, rfl⟩ := read_field.mp reads
          exact read_field.mpr ⟨place, rest ++ later, stands, induction continues, rfl⟩

/-- The tokens of a template are the events of its parts. -/
theorem scan_text (reads : read links state template = some (final, parts)) :
    scan state template.text = some (final, parts.flatMap Part.events) := by
  induction template generalizing state parts with
  | nil =>
      cases reads
      rfl
  | cons piece template induction =>
      rw [Template.text, List.flatMap_cons]
      cases piece with
      | own text =>
          obtain ⟨next, events, later, scans, continues, rfl⟩ := read_own.mp reads
          exact scan_append scans (induction continues)
      | field value shown escapes =>
          obtain ⟨place, later, stands, continues, rfl⟩ := read_field.mp reads
          exact scan_append (scan_content stands fun _ member =>
            plain_escape (by rwa [← escapes])) (induction continues)

theorem contents_of_read (reads : read links state template = some (final, parts)) :
    parts.filterMap Part.content? = template.fields.map escape := by
  induction template generalizing state parts with
  | nil =>
      cases reads
      rfl
  | cons piece template induction =>
      cases piece with
      | own text =>
          obtain ⟨next, events, later, scans, continues, rfl⟩ := read_own.mp reads
          have contents := induction continues
          exact contents
      | field value shown escapes =>
          obtain ⟨place, later, stands, continues, rfl⟩ := read_field.mp reads
          exact congrArg₂ List.cons escapes (induction continues)

/-- What is reported depends on the fields by their contents only. -/
theorem read_outline :
    read links state template.outline =
      (read links state template).map fun found => (found.1, found.2.map Part.outline) := by
  induction template generalizing state with
  | nil => rfl
  | cons piece template induction =>
      rw [Template.outline] at induction
      cases piece with
      | own text =>
          simp only [Template.outline, List.map_cons, Piece.outline, read, induction]
          cases scan state text.toList with
          | none => rfl
          | some found =>
              simp only [Option.bind_eq_bind, Option.bind_some]
              cases read links found.1 template <;> rfl
      | field value shown escapes =>
          simp only [Template.outline, List.map_cons, Piece.outline, Piece.escaped, read,
            induction]
          cases state.place? links with
          | none => rfl
          | some place =>
              simp only [Option.bind_eq_bind, Option.bind_some]
              cases read links state template <;> rfl

/-- Contents are no tags. -/
theorem not_isTag_of_place {place : Place} (stands : state.place? links = some place)
    (character : Char) : Event.isTag links (place.event character) = false := by
  cases state with
  | data =>
      cases stands
      rfl
  | value name =>
      simp only [State.place?, Option.ite_none_right_eq_some, Option.some.injEq] at stands
      obtain ⟨link, rfl⟩ := stands
      simp [Event.isTag, Place.event, link]
  | _ => cases stands

theorem tags_of_read (reads : read links state template = some (final, parts)) :
    (parts.flatMap Part.events).filter (Event.isTag links) =
      ((parts.map Part.outline).flatMap Part.events).filter (Event.isTag links) := by
  induction template generalizing state parts with
  | nil =>
      cases reads
      rfl
  | cons piece template induction =>
      cases piece with
      | own text =>
          obtain ⟨next, events, later, scans, continues, rfl⟩ := read_own.mp reads
          rw [List.map_cons, List.flatMap_cons, List.flatMap_cons, List.filter_append,
            List.filter_append, induction continues]
          rfl
      | field value shown escapes =>
          obtain ⟨place, later, stands, continues, rfl⟩ := read_field.mp reads
          have none := not_isTag_of_place stands
          rw [List.map_cons, List.flatMap_cons, List.flatMap_cons, List.filter_append,
            List.filter_append, induction continues]
          simp [Part.events, Part.outline, List.filter_map, Function.comp_def, none]

/-! ## Templates that can be filled in -/

/-- From text to text. -/
def Settles (links : List Text) (template : Template) : Prop :=
  ∃ parts, read links .data template = some (.data, parts)

theorem Settles.append {front back : Template} (first : Settles links front)
    (second : Settles links back) : Settles links (front ++ back) := by
  obtain ⟨parts, reads⟩ := first
  obtain ⟨later, continues⟩ := second
  exact ⟨parts ++ later, read_append reads continues⟩

theorem settles_nil : Settles links [] :=
  ⟨[], rfl⟩

theorem settles_flatMap {α : Type} {entries : List α} {piece : α → Template}
    (settles : ∀ entry ∈ entries, Settles links (piece entry)) :
    Settles links (entries.flatMap piece) := by
  induction entries with
  | nil => exact settles_nil
  | cons entry entries induction =>
      rw [List.flatMap_cons]
      exact (settles entry (List.mem_cons_self ..)).append
        (induction fun _ member => settles _ (List.mem_cons_of_mem _ member))

/-- The characters of a piece of its own, or a field. -/
def pieceOf : Option Text → Piece
  | some characters => .own (String.ofList characters)
  | none => .escaped []

/-- The state behind pieces, whatever the fields are. -/
def landing (links : List Text) : State → List (Option Text) → Option State
  | state, [] => some state
  | state, some characters :: pieces =>
      (scan state characters).bind fun found => landing links found.1 pieces
  | state, none :: pieces => (state.place? links).bind fun _ => landing links state pieces

theorem read_of_landing {pieces : List (Option Text)}
    (lands : landing links state pieces = some final) :
    ∃ parts, read links state (pieces.map pieceOf) = some (final, parts) := by
  induction pieces generalizing state with
  | nil =>
      cases lands
      exact ⟨[], rfl⟩
  | cons piece pieces induction =>
      cases piece with
      | some characters =>
          rw [landing, Option.bind_eq_some_iff] at lands
          obtain ⟨⟨middle, events⟩, scans, lands⟩ := lands
          obtain ⟨later, continues⟩ := induction lands
          refine ⟨_, read_own.mpr ⟨middle, events, later, ?_, continues, rfl⟩⟩
          rw [String.toList_ofList]
          exact scans
      | none =>
          rw [landing, Option.bind_eq_some_iff] at lands
          obtain ⟨place, stands, lands⟩ := lands
          obtain ⟨later, continues⟩ := induction lands
          exact ⟨_, read_field.mpr ⟨place, later, stands, continues, rfl⟩⟩

/-- A template settles when its own texts do, letter by letter. -/
theorem settles_of_landing (pieces : List (Option Text))
    (same : template.outline = pieces.map pieceOf)
    (lands : landing links .data pieces = some .data) : Settles links template := by
  obtain ⟨parts, reads⟩ := read_of_landing lands
  rw [← same, read_outline, Option.map_eq_some_iff] at reads
  obtain ⟨⟨final, found⟩, reads, equal⟩ := reads
  cases equal
  exact ⟨found, reads⟩

theorem fills_of_read (entities : Entities)
    (reads : read links .data template = some (.data, parts)) :
    Fills entities template.text parts template.fields := by
  constructor
  · rw [tokenize, scan_text reads]
  · rw [contents_of_read reads, List.map_map]
    have inverse : unescape entities ∘ escape = id := funext (unescape_escape entities)
    rw [inverse, List.map_id]

/-- Two texts with the same template have the same tags and attributes but for links, and
each shows its fields where the template has them. -/
theorem same_tags_of_outline (entities : Entities) {first second : Template}
    (settles : Settles links first) (same : first.outline = second.outline) :
    ∃ firstParts secondParts,
      Fills entities first.text firstParts first.fields ∧
        Fills entities second.text secondParts second.fields ∧
        firstParts.map Part.outline = secondParts.map Part.outline ∧
        (firstParts.flatMap Part.events).filter (Event.isTag links) =
          (secondParts.flatMap Part.events).filter (Event.isTag links) := by
  obtain ⟨firstParts, reads⟩ := settles
  have outlines : (read links .data second).map
      (fun found => (found.1, found.2.map Part.outline)) =
        some (.data, firstParts.map Part.outline) := by
    rw [← read_outline, ← same, read_outline, reads]
    rfl
  rw [Option.map_eq_some_iff] at outlines
  obtain ⟨⟨final, secondParts⟩, continues, equal⟩ := outlines
  rw [Prod.mk.injEq] at equal
  obtain ⟨rfl, sameParts⟩ := equal
  refine ⟨firstParts, secondParts, fills_of_read entities reads,
    fills_of_read entities continues, sameParts.symm, ?_⟩
  rw [tags_of_read reads, tags_of_read continues, sameParts]

end Templates

end Html
