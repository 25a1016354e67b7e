import ContractMate.RateLimitDecisions
import ContractMate.ReviewSchemas
import ContractMate.Patterns

/-!
# The pages of a parsed document

The texts of a PDF's pages are joined with form feeds and split again, at form feeds and
at page breaks in the text.
-/

namespace ContractMate

/-! ## Pages with their layout -/

structure DocumentSpan where
  text : String
  pageNumber : Nat
  pageNumber_pos : 1 ≤ pageNumber

/-- A `DocumentPage` with what the parsers add to its text. -/
structure LaidOutPage extends DocumentPage where
  spans : List DocumentSpan := []
  tables : List Json := []

namespace ParsedPages

open PythonText Patterns

/-! ## Separators -/

def formFeed : Char := Char.ofNat 0x0C

/-- A character that `re.IGNORECASE` takes for an ASCII letter in lower case. -/
def ignoringCase (letter character : Char) : Bool :=
  character == letter || character == letter.toUpper ||
    (letter == 'k' && character.toNat == 0x212A) ||
    (letter == 's' && character.toNat == 0x017F)

def word (letters : String) : Pattern Char :=
  .all (letters.toList.map fun letter => .one (ignoringCase letter))

/-- `\s*`. -/
def spaces : Pattern Char :=
  .many 0 none isSpace

/-- `---+`. -/
def rule : Pattern Char :=
  .many 3 none (· == '-')

/-- `\n\s*---+\s*page\s*break\s*---+\s*\n`. -/
def pageBreak : Pattern Char :=
  .all
    [.one (· == '\n'), spaces, rule, spaces, word "page", spaces, word "break", spaces, rule,
      spaces, .one (· == '\n')]

def pageSeparator : Pattern Char :=
  .either (.one (· == formFeed)) pageBreak

/-! ## The parser -/

/-- `_extract_pdf_text`, from what pypdf extracts from each page. -/
def extractPdfText (texts : List (Option Text)) : Text :=
  [formFeed].intercalate (texts.map fun text => strip (text.getD []))

/-- `_to_pages`. -/
def toPages (text : Text) : List LaidOutPage :=
  let rawPages := pageSeparator.split text
  let pages : List LaidOutPage :=
    (if rawPages = [] then [[]] else rawPages).mapIdx fun index rawPage =>
      let pageText := String.ofList (strip rawPage)
      { pageNumber := index + 1
        text := pageText
        pageNumber_pos := Nat.succ_pos index
        spans := if pageText = "" then [] else [⟨pageText, index + 1, Nat.succ_pos index⟩] }
  if pages.isEmpty then
    [{ pageNumber := 1, text := "", warnings := ["No text extracted."] }]
  else pages

def minMachineTextChars : Nat := 80

/-- `parse`, with the text that was extracted from the file. -/
def parse (text : Text) (documentId sha256 mimeType : String) : ParsedDocument :=
  let pages := toPages text
  { documentId, sha256, mimeType
    pageCount := pages.length
    pages := pages.map LaidOutPage.toDocumentPage
    parserName := "pdfmuse"
    parserVersion := "local-fallback-v2"
    requiresOcr := decide
      ((strip (pages.flatMap fun page => page.text.toList)).length < minMachineTextChars) }

/-! ## Where the pages survive -/

/-- The pages are numbered in order, and their texts are the pieces. -/
theorem map_toPages (text : Text) :
    (toPages text).map (fun page => (page.pageNumber, page.text.toList)) =
      ((pageSeparator.split text).map strip).mapIdx fun index piece => (index + 1, piece) := by
  have some_ : pageSeparator.split text ≠ [] := Pattern.splitFrom_ne_nil _ _ _ _
  rw [toPages]
  simp only [if_neg some_]
  split
  · rename_i empty
    simp [List.isEmpty_iff, some_] at empty
  · simp [List.mapIdx_eq_zipIdx_map, List.zipIdx_map, Function.comp_def]

/-- The pages of a parsed text are numbered from one on. -/
theorem pageNumbers_toPages (text : Text) :
    (toPages text).map (fun page => page.pageNumber) =
      List.range' 1 (pageSeparator.split text).length := by
  have numbers := congrArg (List.map Prod.fst) (map_toPages text)
  rw [List.map_map] at numbers
  refine numbers.trans (List.ext_getElem (by simp) ?_)
  intro index _ _
  simp [Nat.add_comm]

theorem accepts_of_all {accepts : Char → Bool} {rest : List (Pattern Char)}
    {position : Nat} {symbol : Char} {text : Text}
    (matched : (Pattern.all (.one accepts :: rest)).lengths position (symbol :: text) ≠ []) :
    accepts symbol = true := by
  by_contra refused
  simp [Pattern.all, Pattern.lengths, refused] at matched

/-- A page break is longer than a form feed. -/
theorem separates_pageBreak :
    Separates (fun _ => 1) 1 (· == formFeed) pageBreak where
  light _ _ := Nat.le_refl 1
  heavy position text length matched := by
    have bound := Pattern.le_length matched
    have least : 17 ≤ length := Pattern.least_le matched
    simp [weigh]
    omega
  apart position symbol rest matched := by
    have newline := accepts_of_all matched
    rw [beq_iff_eq] at newline
    rw [newline]
    decide
  nonempty := by decide

theorem weighAll_one (pieces : List Text) :
    weighAll (fun _ => 1) pieces = (pieces.map List.length).sum := by
  have lengths : weigh (fun _ : Char => 1) = List.length := by
    funext text
    simp [weigh]
  rw [weighAll, lengths]

/-- What stripping keeps of pieces is no longer than they are. -/
theorem sum_strip_le (pieces : List Text) :
    ((pieces.map strip).map List.length).sum ≤ (pieces.map List.length).sum := by
  induction pieces with
  | nil => exact Nat.le_refl 0
  | cons piece rest induction =>
      obtain ⟨front, back, _, _, split⟩ := strip_split piece
      have whole := congrArg List.length split
      simp only [List.length_append, List.map_cons, List.sum_cons] at whole ⊢
      omega

/-- The texts of the pages, without the white space around them. -/
def pageTexts (texts : List (Option Text)) : List Text :=
  texts.map fun text => strip (text.getD [])

/-- Each page comes back under its number. -/
def Survive (texts : List (Option Text)) : Prop :=
  (toPages (extractPdfText texts)).map (fun page => (page.pageNumber, page.text.toList)) =
    (pageTexts texts).mapIdx fun index text => (index + 1, text)

instance (texts : List (Option Text)) : Decidable (Survive texts) :=
  inferInstanceAs (Decidable (_ = _))

/-- The pages come back if and only if the pieces are the texts. -/
theorem survive_iff_pieces {texts : List (Option Text)} :
    Survive texts ↔
      (pageSeparator.split (extractPdfText texts)).map strip = pageTexts texts := by
  rw [Survive, map_toPages]
  constructor
  · intro same
    have texts_ := congrArg (List.map Prod.snd) same
    simpa [List.mapIdx_eq_zipIdx_map, List.map_map, Function.comp_def] using texts_
  · intro same
    rw [same]

/-- A page break costs more text than the pages have. -/
theorem no_pageBreak {texts : List (Option Text)} (some_ : texts ≠ [])
    (same : (pageSeparator.split (extractPdfText texts)).map strip = pageTexts texts) :
    ¬ pageBreak.Occurs 0 (extractPdfText texts) := by
  intro occurs
  have lost := separates_pageBreak.weighAll_splitFrom_lt 0 0 (extractPdfText texts) occurs
  have kept := sum_strip_le (pageSeparator.split (extractPdfText texts))
  have count := congrArg List.length same
  have nonempty : pageTexts texts ≠ [] := by simpa [pageTexts] using some_
  have joined := weigh_intercalate (fun _ => 1) formFeed nonempty
  rw [same] at kept
  rw [List.length_map] at count
  rw [weighAll_one, Nat.one_mul] at joined
  rw [weighAll_one, List.drop_zero, Nat.one_mul] at lost
  change ((pageSeparator.split _).map List.length).sum + (pageSeparator.split _).length <
    weigh (fun _ => 1) ([formFeed].intercalate (pageTexts texts)) + 1 at lost
  omega

/-- A form feed on a page makes one page more. -/
theorem no_formFeed {texts : List (Option Text)} (some_ : texts ≠ [])
    (count : ((extractPdfText texts).splitOnP (· == formFeed)).length =
      (pageTexts texts).length)
    {text : Text} (member : text ∈ pageTexts texts) : formFeed ∉ text := by
  intro held
  have counted : ((extractPdfText texts).splitOnP (· == formFeed)).length =
      ((pageTexts texts).map (List.countP (· == formFeed))).sum + (pageTexts texts).length :=
    length_splitOnP_intercalate (by simp) (by simpa [pageTexts] using some_)
  have one : 0 < text.countP (· == formFeed) :=
    List.countP_pos_iff.mpr ⟨formFeed, held, beq_self_eq_true formFeed⟩
  have zero : ((pageTexts texts).map (List.countP (· == formFeed))).sum = 0 := by omega
  have none_ := List.sum_eq_zero_iff_forall_eq_nat.mp zero _ (List.mem_map_of_mem member)
  omega

/-- The pages of a PDF come back as they were if and only if no page holds a form feed and
there is no page break in the text. -/
theorem survive_iff {texts : List (Option Text)} (some_ : texts ≠ []) :
    Survive texts ↔
      (∀ text ∈ pageTexts texts, formFeed ∉ text) ∧
        ¬ pageBreak.Occurs 0 (extractPdfText texts) := by
  rw [survive_iff_pieces]
  constructor
  · intro same
    have absent := no_pageBreak some_ same
    refine ⟨?_, absent⟩
    have pieces : pageSeparator.split (extractPdfText texts) =
        (extractPdfText texts).splitOnP (· == formFeed) :=
      Separates.split_eq_splitOnP absent
    have count := congrArg List.length same
    rw [List.length_map, pieces] at count
    intro text member
    exact no_formFeed some_ count member
  · rintro ⟨clean, absent⟩
    have pieces : pageSeparator.split (extractPdfText texts) =
        (extractPdfText texts).splitOnP (· == formFeed) :=
      Separates.split_eq_splitOnP absent
    have whole : (extractPdfText texts).splitOnP (· == formFeed) = pageTexts texts := by
      have nonempty : pageTexts texts ≠ [] := by simpa [pageTexts] using some_
      apply splitOnP_intercalate (by simp) nonempty
      intro text member symbol held
      rw [beq_eq_false_iff_ne]
      rintro rfl
      exact clean text member held
    rw [pieces, whole, pageTexts, List.map_map]
    simp

theorem survive_iff_sample :
    Survive [some "Clause 1 ".toList, none, some "Clause 2".toList] ↔
      (∀ text ∈ pageTexts [some "Clause 1 ".toList, none, some "Clause 2".toList],
          formFeed ∉ text) ∧
        ¬ pageBreak.Occurs 0
          (extractPdfText [some "Clause 1 ".toList, none, some "Clause 2".toList]) :=
  survive_iff (by simp)

/-- A page that quotes a page break comes back as two. -/
theorem quoted_break_splits :
    ¬ Survive [some "Clause 1\n--- Page Break ---\nClause 2".toList, some "Clause 3".toList] := by
  decide

end ParsedPages

end ContractMate
