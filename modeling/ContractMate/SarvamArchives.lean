import ContractMate.JobMessages
import ContractMate.ParsedPages

/-!
# Archives of Sarvam Vision

The pages that are read from an output archive: from its JSON members, where pages may be
anywhere and may name their numbers, or else from its Markdown members.
-/

namespace ContractMate

namespace SarvamVision

open PythonText Patterns ParsedPages

/-! ## Digits -/

/-- First and last of the digits that are not decimal: superscripts and the like. -/
def otherDigits : List (Nat × Nat) :=
  [(0xB2, 0xB3), (0xB9, 0xB9), (0x1369, 0x1371), (0x19DA, 0x19DA), (0x2070, 0x2070),
    (0x2074, 0x2079), (0x2080, 0x2089), (0x2460, 0x2468), (0x2474, 0x247C), (0x2488, 0x2490),
    (0x24EA, 0x24EA), (0x24F5, 0x24FD), (0x24FF, 0x24FF), (0x2776, 0x277E), (0x2780, 0x2788),
    (0x278A, 0x2792), (0x10A40, 0x10A43), (0x10E60, 0x10E68), (0x11052, 0x1105A),
    (0x1F100, 0x1F10A)]

/-- `value.isdigit()`. -/
def isDigits (value : Text) : Bool :=
  !value.isEmpty && value.all fun character =>
    isDecimal character ||
      otherDigits.any fun range =>
        range.1 ≤ character.toNat && character.toNat ≤ range.2

/-- `int(value)` of a text of digits. -/
def intOfDigits (value : Text) : Except Exn Nat :=
  if 4300 < value.length then
    .error (Exn.valueError "Exceeds the limit (4300 digits) for integer string conversion")
  else
    match value.mapM decimalValue with
    | some digits => .ok (digits.foldl (fun number digit => number * 10 + digit) 0)
    | none => .error (Exn.valueError "invalid literal for int() with base 10")

/-! ## Texts in a value -/

def pageCollectionKeys : List String :=
  ["pages", "page_data", "page_results", "page_outputs"]

def pageNumberKeys : List String :=
  ["page_number", "page_no", "page_num", "page_index", "page"]

def textKeys : List String :=
  ["text", "content", "page_content", "extracted_text", "markdown", "markdown_content", "md",
    "raw_text", "predicted_text", "html"]

def nestedKeys : List String :=
  ["blocks", "lines", "paragraphs", "sections", "elements", "children"]

/-- `"\n".join(texts)`. -/
def joinLines (texts : List Text) : Text :=
  ['\n'].intercalate texts

section Casefold

variable (casefold : String → String)

/-- The texts that a dictionary holds under a text key. -/
def directTexts (fields : List (String × Json)) : List Text :=
  textKeys.filterMap fun key =>
    match fields.lookup key with
    | some (.text value) => if isBlank value.toList then none else some (strip value.toList)
    | _ => none

mutual

/-- `_extract_text`. -/
def extractText : Json → Text
  | .text value => strip value.toList
  | .list items => strip (joinLines (extractItems items))
  | .object fields =>
      if directTexts fields ≠ [] then joinLines (directTexts fields).eraseDups
      else strip (joinLines (extractNested fields))
  | _ => []

/-- The texts of the items of a list. -/
def extractItems : List Json → List Text
  | [] => []
  | item :: rest =>
      if extractText item ≠ [] then extractText item :: extractItems rest
      else extractItems rest

/-- The texts of the nested values of a dictionary. -/
def extractNested : List (String × Json) → List Text
  | [] => []
  | (key, nested) :: rest =>
      if casefold key ∈ nestedKeys ∧ extractText nested ≠ [] then
        extractText nested :: extractNested rest
      else extractNested rest

end

/-! ## Pages in a value -/

def isDictOrStr : Json → Bool
  | .object _ | .text _ => true
  | _ => false

/-- The list under the first key for pages that holds one. -/
def pageCollection (fields : List (String × Json)) : Option (List Json) :=
  fields.findSome? fun (key, nested) =>
    match nested with
    | .list items => if casefold key ∈ pageCollectionKeys then some items else none
    | _ => none

mutual

/-- `_find_page_items`. -/
def findPageItems : Json → List Json
  | .object fields =>
      match pageCollection casefold fields with
      | some items => items
      | none =>
          if findInFields fields ≠ [] then findInFields fields
          else if extractText casefold (.object fields) ≠ [] then [.object fields]
          else []
  | .list items =>
      if items ≠ [] ∧ items.all isDictOrStr then items else findInItems items
  | _ => []

/-- The first result for a nested value of a dictionary. -/
def findInFields : List (String × Json) → List Json
  | [] => []
  | (_, nested) :: rest =>
      if findPageItems nested ≠ [] then findPageItems nested else findInFields rest

/-- The first result for an item of a list. -/
def findInItems : List Json → List Json
  | [] => []
  | nested :: rest =>
      if findPageItems nested ≠ [] then findPageItems nested else findInItems rest

end

/-! ## The pages of a list of items -/

/-- A page number: it is never below one. -/
abbrev PageNumber := { number : Nat // 1 ≤ number }

/-- A number under a key, where `page_index` counts from zero. -/
def countedFrom (key : String) (number : Nat) : PageNumber :=
  if key = "page_index" then ⟨number + 1, Nat.succ_pos number⟩
  else ⟨max number 1, Nat.le_max_right number 1⟩

/-- The number that a value under a key names, if any. -/
def namedNumber (key : String) : Json → Option (Except Exn PageNumber)
  | .int value => if 0 ≤ value then some (.ok (countedFrom key value.toNat)) else none
  | .bool value => some (.ok (countedFrom key value.toNat))
  | .text value =>
      if isDigits value.toList then some ((intOfDigits value.toList).map (countedFrom key))
      else none
  | _ => none

/-- `_extract_page_number`. -/
def extractPageNumber (item : Json) (fallback : PageNumber) : Except Exn PageNumber :=
  match item with
  | .object fields =>
      (pageNumberKeys.findSome? fun key =>
        (fields.lookup key).bind (namedNumber key)).getD (.ok fallback)
  | _ => .ok fallback

/-- The text of a page item. -/
def itemText : Json → Text
  | .text value => strip value.toList
  | item => extractText casefold item

/-- `[table for table in item.get("tables", []) if isinstance(table, dict)]`. -/
def itemTables : Json → List Json
  | .object fields =>
      match fields.lookup "tables" with
      | some (.list tables) =>
          tables.filter fun table =>
            match table with
            | .object _ => true
            | _ => false
      | _ => []
  | _ => []

/-- The page of an item. -/
def pageOf (pageOffset : Nat) (item : Json) (number : PageNumber) : LaidOutPage where
  pageNumber := pageOffset + number.val
  text := String.ofList (itemText casefold item)
  pageNumber_pos := Nat.le_add_left_of_le number.property
  spans :=
    [⟨String.ofList (itemText casefold item), pageOffset + number.val,
      Nat.le_add_left_of_le number.property⟩]
  tables := itemTables item
  warnings := ["Text extracted with Sarvam Vision OCR."]

/-- The loop of `_document_pages`; `index` items are done. -/
def documentPagesFrom (pageOffset : Nat) : Nat → List Json → Except Exn (List LaidOutPage)
  | _, [] => .ok []
  | index, item :: rest =>
      if itemText casefold item = [] then documentPagesFrom pageOffset (index + 1) rest
      else do
        let number ← extractPageNumber item ⟨index + 1, Nat.succ_pos index⟩
        let pages ← documentPagesFrom pageOffset (index + 1) rest
        .ok (pageOf casefold pageOffset item number :: pages)

/-- `_document_pages`. -/
def documentPages (pageItems : List Json) (pageOffset : Nat) :
    Except Exn (List LaidOutPage) :=
  documentPagesFrom casefold pageOffset 0 pageItems

/-! ## Members of an archive -/

/-- A member of the ZIP archive: its text if it is UTF-8, and what `json.loads` makes of
the text if it is JSON. -/
structure ArchiveMember where
  name : String
  text : Option Text
  json : Option Json

/-- `archive.read(name)`: the last member of a name. -/
def readMember (archive : List ArchiveMember) (name : String) : Option ArchiveMember :=
  archive.reverse.find? fun member => member.name == name

/-- The members whose names satisfy a test, in the order of their names. -/
def membersNamed (archive : List ArchiveMember) (accepts : String → Bool) :
    List ArchiveMember :=
  (((archive.map ArchiveMember.name).filter accepts).insertionSort (· ≤ ·)).filterMap
    (readMember archive)

/-- `name.casefold().endswith(suffix)`. -/
def hasSuffix (suffix name : String) : Bool :=
  suffix.toList.isSuffixOf (casefold name).toList

def isJsonName : String → Bool :=
  hasSuffix casefold ".json"

def isMarkdownName (name : String) : Bool :=
  hasSuffix casefold ".md" name || hasSuffix casefold ".markdown" name

def undecodable : Exn :=
  Exn.valueError "'utf-8' codec can't decode"

/-- `_pages_from_json_members`, on the members that are JSON by their names. -/
def pagesFromJson (pageOffset : Nat) :
    List ArchiveMember → Except Exn (List LaidOutPage)
  | [] => .ok []
  | member :: rest =>
      match member.text, member.json with
      | none, _ => .error undecodable
      | some _, none =>
          .error ⟨.ocrProcessingError, "Could not read the Sarvam Vision output archive"⟩
      | some _, some payload => do
          let pages ← documentPages casefold (findPageItems casefold payload) pageOffset
          if pages.isEmpty then pagesFromJson pageOffset rest else .ok pages

/-- `(?:^|\n)(?:<!--\s*)?(?:#{1,6}\s*)?page\s+\d+(?:\s*-->)?\s*(?:\n|$)`. -/
def pageHeading : Pattern Char :=
  .all
    [.either (.check fun position _ => position == 0) (.one (· == '\n')),
      .optional (.all [word "<!--", spaces]),
      .optional (.all [.many 1 (some 6) (· == '#'), spaces]),
      word "page",
      .many 1 none isSpace,
      .many 1 none isDecimal,
      .optional (.all [spaces, word "-->"]),
      spaces,
      .either (.one (· == '\n')) (.check fun _ rest => rest == [] || rest == ['\n'])]

def markdownSeparator : Pattern Char :=
  .either (.one (· == formFeed)) pageHeading

/-- `_split_markdown_pages`. -/
def splitMarkdownPages (markdown : Text) : List Text :=
  ((markdownSeparator.split markdown).filter fun page => !isBlank page).map strip

/-- The raw pages of the Markdown members. -/
def rawPages : List ArchiveMember → Except Exn (List Text)
  | [] => .ok []
  | member :: rest =>
      match member.text with
      | none => .error undecodable
      | some text => do
          let pages ← rawPages rest
          .ok (if isBlank text then pages else splitMarkdownPages (strip text) ++ pages)

/-- `_pages_from_markdown_members`. -/
def pagesFromMarkdown (pageOffset : Nat) (members : List ArchiveMember) :
    Except Exn (List LaidOutPage) := do
  let pages ← rawPages members
  documentPages casefold (pages.map fun page => .text (String.ofList page)) pageOffset

/-- `parse_sarvam_output_archive`, of an archive that can be opened. -/
def parseArchive (archive : List ArchiveMember) (pageOffset : Nat) :
    Except Exn (List LaidOutPage) := do
  let jsonPages ←
    pagesFromJson casefold pageOffset (membersNamed archive (isJsonName casefold))
  if !jsonPages.isEmpty then .ok jsonPages
  else
    let markdownPages ←
      pagesFromMarkdown casefold pageOffset (membersNamed archive (isMarkdownName casefold))
    if !markdownPages.isEmpty then .ok markdownPages
    else
      .error ⟨.ocrProcessingError,
        "Sarvam Vision output did not contain page text in JSON or Markdown format."⟩

end Casefold

/-! ## Texts that are read -/

section Texts

variable {casefold : String → String}

/-- A line break makes no blank text visible. -/
theorem isBlank_joinLines (texts : List Text) :
    isBlank (joinLines texts) = texts.all isBlank := by
  induction texts with
  | nil => rfl
  | cons text rest induction =>
      cases rest with
      | nil => simp [joinLines]
      | cons next rest =>
          rw [joinLines] at induction ⊢
          rw [List.intercalate_cons_cons, isBlank_append, isBlank_append, induction]
          have newline : isBlank ['\n'] = true := by decide
          rw [newline, Bool.and_true, List.all_cons (l := next :: rest)]

theorem isBlank_of_strip {text : Text} (kept : strip text ≠ []) :
    isBlank (strip text) = false := by
  rw [Bool.eq_false_iff]
  intro blank
  rw [← strip_eq_nil_iff, strip_strip] at blank
  exact kept blank

theorem visible_of_mem_directTexts {fields : List (String × Json)} {text : Text}
    (member : text ∈ directTexts fields) : isBlank text = false := by
  obtain ⟨key, _, found⟩ := List.mem_filterMap.mp member
  split at found
  · split at found
    · cases found
    · rename_i value _ visible
      rw [← Option.some.inj found]
      apply isBlank_of_strip
      rw [Ne, strip_eq_nil_iff]
      exact visible
  · cases found

/-- The text of an item is empty or visible. -/
theorem visible_of_itemText {item : Json} (some_ : itemText casefold item ≠ []) :
    isBlank (itemText casefold item) = false := by
  cases item with
  | text value =>
      rw [itemText] at some_ ⊢
      exact isBlank_of_strip some_
  | list items =>
      rw [itemText.eq_2 _ _ (by simp), extractText] at some_ ⊢
      exact isBlank_of_strip some_
  | object fields =>
      rw [itemText.eq_2 _ _ (by simp), extractText] at some_ ⊢
      split at some_
      · rename_i direct
        rw [if_pos direct, isBlank_joinLines]
        obtain ⟨text, member⟩ := List.exists_mem_of_ne_nil _ direct
        rw [Bool.eq_false_iff, Ne, List.all_eq_true]
        intro blank
        have visible := visible_of_mem_directTexts member
        rw [blank text (List.mem_eraseDups.mpr member)] at visible
        cases visible
      · rename_i direct
        rw [if_neg direct]
        exact isBlank_of_strip some_
  | null | bool _ | int _ | float _ =>
      rw [itemText.eq_2 _ _ (by simp), extractText] at some_
      · exact absurd rfl some_
      all_goals simp

end Texts

/-! ## Pages that are read -/

theorem ok_of_bind {First Second : Type} {first : Except Exn First}
    {next : First → Except Exn Second} {result : Second}
    (done : (first >>= next) = .ok result) :
    ∃ value, first = .ok value ∧ next value = .ok result := by
  cases first with
  | error error => cases done
  | ok value => exact ⟨value, rfl, done⟩

section Pages

variable {casefold : String → String}

variable {pages : List LaidOutPage}

/-- Every page that is read has a text. -/
theorem documentPagesFrom_visible {pageOffset index : Nat} {items : List Json}
    (read : documentPagesFrom casefold pageOffset index items = .ok pages)
    {page : LaidOutPage} (member : page ∈ pages) : isBlank page.text.toList = false := by
  induction items generalizing index pages with
  | nil =>
      cases read
      cases member
  | cons item rest induction =>
      rw [documentPagesFrom] at read
      split at read
      · exact induction read member
      · rename_i some_
        obtain ⟨number, _, read⟩ := ok_of_bind read
        obtain ⟨found, later, read⟩ := ok_of_bind read
        have whole : pageOf casefold pageOffset item number :: found = pages :=
          Except.ok.inj read
        rcases List.mem_cons.mp (whole ▸ member) with rfl | inRest
        · simpa [pageOf] using visible_of_itemText some_
        · exact induction later inRest

/-- Pages are read where an item has a text. -/
theorem documentPagesFrom_eq_nil {pageOffset index : Nat} {items : List Json}
    (read : documentPagesFrom casefold pageOffset index items = .ok pages) :
    pages = [] ↔ ∀ item ∈ items, itemText casefold item = [] := by
  induction items generalizing index pages with
  | nil =>
      cases read
      simp
  | cons item rest induction =>
      rw [documentPagesFrom] at read
      split at read
      · rename_i empty
        rw [induction read, List.forall_mem_cons]
        simp [empty]
      · rename_i some_
        obtain ⟨number, _, read⟩ := ok_of_bind read
        obtain ⟨found, later, read⟩ := ok_of_bind read
        have whole : pageOf casefold pageOffset item number :: found = pages :=
          Except.ok.inj read
        rw [← whole, List.forall_mem_cons]
        simp [some_]

/-- The items of a value, if one of them has a text. -/
def itemsWithText (casefold : String → String) (payload : Json) : Option (List Json) :=
  if (findPageItems casefold payload).all fun item => itemText casefold item = [] then none
  else some (findPageItems casefold payload)

/-- The items of the first JSON member that has a text. -/
def jsonItems (casefold : String → String) (members : List ArchiveMember) :
    Option (List Json) :=
  members.findSome? fun member => member.json.bind (itemsWithText casefold)

/-- The items from which the pages of an archive are read. -/
def archiveItems (casefold : String → String) (archive : List ArchiveMember) : List Json :=
  match jsonItems casefold (membersNamed archive (isJsonName casefold)) with
  | some items => items
  | none =>
      match rawPages (membersNamed archive (isMarkdownName casefold)) with
      | .ok pages => pages.map fun page => .text (String.ofList page)
      | .error _ => []

/-- The pages of the first JSON member that has any. -/
theorem pagesFromJson_ok {pageOffset : Nat} {members : List ArchiveMember}
    (read : pagesFromJson casefold pageOffset members = .ok pages) :
    (pages = [] ∧ jsonItems casefold members = none) ∨
      (pages ≠ [] ∧ ∃ items, jsonItems casefold members = some items ∧
        documentPages casefold items pageOffset = .ok pages) := by
  induction members with
  | nil =>
      cases read
      exact .inl ⟨rfl, rfl⟩
  | cons member rest induction =>
      rw [pagesFromJson] at read
      split at read
      · cases read
      · cases read
      · rename_i payload _ found
        obtain ⟨own, read', read⟩ := ok_of_bind read
        have empty := documentPagesFrom_eq_nil read'
        rw [jsonItems, List.findSome?_cons, found, Option.bind_some, itemsWithText]
        by_cases none_ : own = []
        · rw [if_pos (by simpa using none_)] at read
          rw [if_pos (by simpa using empty.mp none_)]
          exact induction read
        · rw [if_neg (by simpa using none_)] at read
          have same : own = pages := Except.ok.inj read
          rw [if_neg (by simpa using (not_congr empty).mp none_)]
          exact .inr ⟨same ▸ none_, _, rfl, same ▸ read'⟩

/-- Every archive that can be read has pages, and they are read from its items. -/
theorem parseArchive_ok {archive : List ArchiveMember} {pageOffset : Nat}
    (read : parseArchive casefold archive pageOffset = .ok pages) :
    documentPages casefold (archiveItems casefold archive) pageOffset = .ok pages ∧
      pages ≠ [] := by
  rw [parseArchive] at read
  obtain ⟨json, readJson, read⟩ := ok_of_bind read
  rw [archiveItems]
  rcases pagesFromJson_ok readJson with ⟨none_, noItems⟩ | ⟨some_, items, found, readItems⟩
  · rw [if_neg (by simp [none_])] at read
    obtain ⟨markdown, readMarkdown, read⟩ := ok_of_bind read
    rw [pagesFromMarkdown] at readMarkdown
    obtain ⟨raw, readRaw, readPages⟩ := ok_of_bind readMarkdown
    split at read
    · rename_i shown
      have same : markdown = pages := Except.ok.inj read
      rw [noItems, readRaw]
      exact ⟨same ▸ readPages, by simpa [same] using shown⟩
    · cases read
  · rw [if_pos (by simpa using some_)] at read
    have same : json = pages := Except.ok.inj read
    rw [found]
    exact ⟨same ▸ readItems, same ▸ some_⟩

end Pages

end SarvamVision

end ContractMate
