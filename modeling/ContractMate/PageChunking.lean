import ContractMate.ChatEvidence

/-!
# Page-aware chunking

A page is cut into chunks that overlap, each of them at the best separator near its end.
The cursor moves on with every chunk and never past text that is not white space.
-/

namespace ContractMate

namespace PageChunking

open PythonText

open ChatEvidence (Metadata DocumentChunk)

/-! ## The chunker -/

/-- A `PageAwareChunker` that its `__post_init__` has let through. -/
structure PageAwareChunker where
  maxChars : Nat := 1200
  overlapChars : Nat := 180
  minBoundaryChars : Nat := 360
  least : 100 ≤ maxChars := by decide
  overlap : overlapChars < maxChars := by decide
  boundary : 1 ≤ minBoundaryChars ∧ minBoundaryChars ≤ maxChars := by decide
deriving Repr

/-- `__post_init__`. -/
def PageAwareChunker.create (maxChars overlapChars minBoundaryChars : Int) :
    Except Exn PageAwareChunker :=
  if small : maxChars < 100 then .error (Exn.valueError "max_chars must be at least 100.")
  else if wide : ¬ (0 ≤ overlapChars ∧ overlapChars < maxChars) then
    .error (Exn.valueError
      "overlap_chars must be non-negative and smaller than max_chars.")
  else if far : ¬ (1 ≤ minBoundaryChars ∧ minBoundaryChars ≤ maxChars) then
    .error (Exn.valueError "min_boundary_chars must be between one and max_chars.")
  else
    .ok
      { maxChars := maxChars.toNat
        overlapChars := overlapChars.toNat
        minBoundaryChars := minBoundaryChars.toNat
        least := by omega
        overlap := by omega
        boundary := by omega }

structure PageContent where
  pageNumber : Option Int
  text : Text
  metadata : Metadata := []
deriving DecidableEq, Repr

/-- A `DocumentChunk` with its place on the page. -/
structure LocatedChunk extends DocumentChunk where
  startChar : Nat
  endChar : Nat
deriving DecidableEq, Repr

/-- `text[start:stop]`. -/
def slice (text : Text) (start stop : Nat) : Text :=
  (text.take stop).drop start

/-- `text.rfind(pattern)`, or nothing for -1. -/
def rfind (pattern text : Text) : Option Nat :=
  ((List.range (text.length + 1)).filter fun position =>
    pattern.isPrefixOf (text.drop position)).getLast?

def separators : List Text :=
  ["\n\n".toList, "\n".toList, ". ".toList, "; ".toList, " ".toList]

/-- The inner loop: the first position from `cursor` on that is not white space. -/
def skipSpaces (text : Text) (cursor : Nat) : Nat :=
  cursor + ((text.drop cursor).takeWhile isSpace).length

/-- A piece of a page. -/
structure Span where
  start : Nat
  stop : Nat
  text : Text
deriving DecidableEq, Repr

namespace PageAwareChunker

variable (chunker : PageAwareChunker)

/-- `_boundary`. -/
def findBoundary (text : Text) (start hardEnd : Nat) : Nat :=
  let lower := min hardEnd (start + chunker.minBoundaryChars)
  let window := slice text lower hardEnd
  (separators.findSome? fun separator =>
    (rfind separator window).map fun position =>
      lower + position + separator.length).getD hardEnd

/-- `hard_end`. -/
def hardEnd (text : Text) (start : Nat) : Nat :=
  min text.length (start + chunker.maxChars)

/-- `end`. -/
def endOf (text : Text) (start : Nat) : Nat :=
  if chunker.hardEnd text start = text.length then chunker.hardEnd text start
  else chunker.findBoundary text start (chunker.hardEnd text start)

/-- The chunk that starts at a position. -/
def spanAt (text : Text) (start : Nat) : Span :=
  let chunkText := rstrip (slice text start (chunker.endOf text start))
  { start, stop := start + chunkText.length, text := chunkText }

/-- The loop of `_chunk_page`. -/
def spansFrom (text : Text) (cursor : Nat) : List Span :=
  let start := skipSpaces text cursor
  if text.length ≤ start then []
  else
    let span := chunker.spanAt text start
    let rest :=
      if text.length ≤ chunker.endOf text start then []
      else
        spansFrom text (max (start + 1) (chunker.endOf text start - chunker.overlapChars))
    if span.text = [] then rest else span :: rest
termination_by text.length - cursor
decreasing_by
  have moved : cursor ≤ skipSpaces text cursor := Nat.le_add_right _ _
  omega

end PageAwareChunker

/-- `str(number)`. -/
def decimal (number : Int) : Text :=
  if number < 0 then '-' :: Nat.toDigits 10 number.natAbs else Nat.toDigits 10 number.natAbs

/-- The text whose digest is the identifier of a chunk. -/
def identity (documentId : String) (pageNumber : Int) (span : Span) : Text :=
  documentId.toList ++ ':' :: (decimal pageNumber ++ ':' :: (decimal span.start ++ ':' ::
    (decimal span.stop ++ ':' :: span.text)))

section Pages

variable (digest : Text → String) (chunker : PageAwareChunker)
  (documentId contractId : String)

/-- The chunk of a span; `digest` is the head of its SHA-256 in hexadecimal. -/
def chunkOf (pageNumber : Int) (metadata : Metadata) (span : Span) : LocatedChunk where
  id := digest (identity documentId pageNumber span)
  documentId := documentId
  contractId := contractId
  pageNumber := some pageNumber
  text := String.ofList span.text
  metadata := metadata
  startChar := span.start
  endChar := span.stop

/-- `_chunk_page`. -/
def chunkPage (pageNumber : Int) (text : Text) (metadata : Metadata) : List LocatedChunk :=
  (chunker.spansFrom text 0).map (chunkOf digest documentId contractId pageNumber metadata)

/-- The loop of `chunk_pages`. -/
def chunkEach (metadata : Metadata) : List PageContent → List Int →
    Except Exn (List LocatedChunk)
  | [], _ => .ok []
  | page :: rest, seenPages =>
      match page.pageNumber with
      | none =>
          .error ⟨.otherError,
            "'<' not supported between instances of 'NoneType' and 'int'"⟩
      | some number =>
          if number < 1 ∨ number ∈ seenPages then
            .error (Exn.valueError "Page numbers must be unique positive integers.")
          else do
            let chunks ← chunkEach metadata rest (number :: seenPages)
            .ok (chunkPage digest chunker documentId contractId number page.text
              (metadata ++ page.metadata) ++ chunks)

/-- `chunk_pages`. -/
def chunkPages (pages : List PageContent) (metadata : Metadata) :
    Except Exn (List LocatedChunk) :=
  if isBlank documentId.toList || isBlank contractId.toList then
    .error (Exn.valueError "document_id and contract_id are required.")
  else chunkEach digest chunker documentId contractId metadata pages []

end Pages

/-! ## Texts and positions -/

section Texts

variable {text : Text} {start stop cursor position : Nat} {character : Char}

theorem length_slice (bound : stop ≤ text.length) : (slice text start stop).length =
    stop - start := by
  rw [slice, List.length_drop, List.length_take, Nat.min_eq_left bound]

theorem getElem?_slice (inside : start + position < stop) :
    (slice text start stop)[position]? = text[start + position]? := by
  rw [slice, List.getElem?_drop, List.getElem?_take_of_lt inside]

/-- What `rstrip` cuts off is white space. -/
theorem isSpace_of_rstrip (cut : (rstrip text).length ≤ position)
    (there : text[position]? = some character) : isSpace character = true := by
  have split : rstrip text ++ text.rtakeWhile isSpace = text :=
    List.rdropWhile_append_rtakeWhile
  rw [← split, List.getElem?_append_right cut] at there
  exact List.mem_rtakeWhile_imp (List.mem_of_getElem? there)

theorem getElem?_rstrip (kept : position < (rstrip text).length) :
    (rstrip text)[position]? = text[position]? := by
  obtain ⟨suffix, split⟩ := prefix_rstrip text
  have here : (rstrip text ++ suffix)[position]? = (rstrip text)[position]? :=
    List.getElem?_append_left kept
  rw [← here, split]

/-- The positions that are skipped hold white space. -/
theorem isSpace_of_skipped (from_ : cursor ≤ position) (skipped : position < skipSpaces text cursor)
    (there : text[position]? = some character) : isSpace character = true := by
  rw [skipSpaces] at skipped
  have offset : position - cursor < ((text.drop cursor).takeWhile isSpace).length := by omega
  have split : (text.drop cursor).takeWhile isSpace ++ (text.drop cursor).dropWhile isSpace =
      text.drop cursor := List.takeWhile_append_dropWhile
  have here : (text.drop cursor)[position - cursor]? = some character := by
    rw [List.getElem?_drop, Nat.add_sub_cancel' from_]
    exact there
  rw [← split, List.getElem?_append_left offset] at here
  exact List.mem_takeWhile_imp (List.mem_of_getElem? here)

/-- The next position that is not skipped does not. -/
theorem visible_of_skipSpaces (there : text[skipSpaces text cursor]? = some character) :
    isSpace character = false := by
  have here : (text.drop cursor)[((text.drop cursor).takeWhile isSpace).length]? =
      some character := by
    rw [List.getElem?_drop]
    exact there
  generalize text.drop cursor = tail at here
  have split : tail.takeWhile isSpace ++ tail.dropWhile isSpace = tail :=
    List.takeWhile_append_dropWhile
  have leading : (tail.dropWhile isSpace).head? = some character := by
    have joined : (tail.takeWhile isSpace ++ tail.dropWhile isSpace)[
        (tail.takeWhile isSpace).length]? = (tail.dropWhile isSpace)[0]? := by
      rw [List.getElem?_append_right (Nat.le_refl _), Nat.sub_self]
    rw [List.head?_eq_getElem?, ← joined, split]
    exact here
  have visible := List.head?_dropWhile_not isSpace tail
  rw [leading] at visible
  exact visible

end Texts

/-! ## The boundary -/

section Boundary

variable {pattern text : Text} {position start : Nat} {chunker : PageAwareChunker}

theorem prefix_of_rfind (found : rfind pattern text = some position) :
    pattern <+: text.drop position := by
  have member := List.mem_of_getLast? found
  rw [List.mem_filter] at member
  exact List.isPrefixOf_iff_prefix.mp member.2

theorem length_of_rfind (found : rfind pattern text = some position)
    (nonempty : pattern ≠ []) : position + pattern.length ≤ text.length := by
  have bound := (prefix_of_rfind found).length_le
  have positive := List.length_pos_iff.mpr nonempty
  rw [List.length_drop] at bound
  omega

namespace PageAwareChunker

/-- The boundary is after the start and not after the hard end. -/
theorem findBoundary_bounds {hardEnd : Nat} (inside : hardEnd ≤ text.length)
    (after : start < hardEnd) :
    start < chunker.findBoundary text start hardEnd ∧
      chunker.findBoundary text start hardEnd ≤ hardEnd := by
  have least := chunker.boundary.1
  rw [findBoundary]
  cases found : separators.findSome? fun separator =>
      (rfind separator (slice text (min hardEnd (start + chunker.minBoundaryChars))
        hardEnd)).map fun position =>
          min hardEnd (start + chunker.minBoundaryChars) + position + separator.length with
  | none =>
      simp only [Option.getD_none]
      exact ⟨after, Nat.le_refl _⟩
  | some boundary =>
      simp only [Option.getD_some]
      obtain ⟨separator, member, mapped⟩ := List.exists_of_findSome?_eq_some found
      obtain ⟨position, located, rfl⟩ := Option.map_eq_some_iff.mp mapped
      have nonempty : ∀ other ∈ separators, other ≠ [] := by decide
      have bound := length_of_rfind located (nonempty separator member)
      rw [length_slice inside] at bound
      have positive := List.length_pos_iff.mpr (nonempty separator member)
      omega

/-- A chunk ends after its start, on the page, and is not too long. -/
theorem endOf_bounds (inside : start < text.length) :
    start < chunker.endOf text start ∧ chunker.endOf text start ≤ text.length ∧
      chunker.endOf text start ≤ start + chunker.maxChars := by
  have positive := chunker.least
  have hard : chunker.hardEnd text start ≤ text.length ∧
      chunker.hardEnd text start ≤ start + chunker.maxChars ∧
        start < chunker.hardEnd text start := by
    rw [hardEnd]
    omega
  rw [endOf]
  split
  · exact ⟨hard.2.2, hard.1, hard.2.1⟩
  · have bounds := chunker.findBoundary_bounds hard.1 hard.2.2
    exact ⟨bounds.1, bounds.2.trans hard.1, bounds.2.trans hard.2.1⟩

end PageAwareChunker

end Boundary

/-! ## The chunks of a page -/

section Spans

variable {chunker : PageAwareChunker} {text : Text}

/-- A chunk is a piece of the text of bounded length, with nothing but text at its ends. -/
structure WellCut (chunker : PageAwareChunker) (text : Text) (span : Span) : Prop where
  nonempty : span.text ≠ []
  short : span.text.length ≤ chunker.maxChars
  stripped : strip span.text = span.text
  stop : span.stop ≤ text.length
  piece : slice text span.start span.stop = span.text

/-- The start of a span is where the inner loop stops. -/
theorem visible_start {cursor : Nat} (inside : skipSpaces text cursor < text.length) :
    ∃ character, text[skipSpaces text cursor]? = some character ∧
      isSpace character = false := by
  refine ⟨_, List.getElem?_eq_getElem inside, ?_⟩
  exact visible_of_skipSpaces (List.getElem?_eq_getElem inside)

theorem slice_eq_take_drop (text : Text) (start stop : Nat) :
    slice text start stop = (text.drop start).take (stop - start) := by
  rw [slice, List.drop_take]

theorem length_rstrip_le (text : Text) : (rstrip text).length ≤ text.length :=
  (prefix_rstrip text).length_le

theorem wellCut_spanAt {start : Nat} {character : Char}
    (there : text[start]? = some character) (visible : isSpace character = false) :
    WellCut chunker text (chunker.spanAt text start) := by
  have inside : start < text.length := (List.getElem?_eq_some_iff.mp there).1
  obtain ⟨after, bound, short⟩ := chunker.endOf_bounds inside
  have length : (slice text start (chunker.endOf text start)).length =
      chunker.endOf text start - start := length_slice bound
  have first : (slice text start (chunker.endOf text start))[0]? = some character := by
    rw [getElem?_slice (by omega)]
    exact there
  have nonempty : rstrip (slice text start (chunker.endOf text start)) ≠ [] := by
    intro empty
    have blank := rstrip_eq_nil_iff.mp empty
    rw [isBlank, List.all_eq_true] at blank
    rw [blank character (List.mem_of_getElem? first)] at visible
    cases visible
  have trimmed := length_rstrip_le (slice text start (chunker.endOf text start))
  constructor
  · exact nonempty
  · change (rstrip _).length ≤ _
    omega
  · change strip (rstrip _) = rstrip _
    have head : ∀ other ∈ (rstrip (slice text start (chunker.endOf text start))).head?,
        isSpace other = false := by
      intro other leading
      rw [List.head?_eq_getElem?, getElem?_rstrip (List.length_pos_iff.mpr nonempty),
        first, Option.mem_some_iff] at leading
      exact leading ▸ visible
    rw [strip_eq_rstrip_of_head head]
    exact List.rdropWhile_idempotent _ _
  · change start + (rstrip _).length ≤ _
    omega
  · change slice text start (start + (rstrip _).length) = rstrip _
    have cut := List.prefix_iff_eq_take.mp
      (prefix_rstrip (slice text start (chunker.endOf text start)))
    rw [slice_eq_take_drop, Nat.add_sub_cancel_left]
    conv_rhs => rw [cut, slice_eq_take_drop, List.take_take, ← slice_eq_take_drop]
    congr 1
    omega

/-- What the chunk at a position leaves out before its end is white space. -/
theorem mem_spanAt {start position : Nat} {character : Char}
    (from_ : start ≤ position) (until_ : position < chunker.endOf text start)
    (there : text[position]? = some character) (visible : isSpace character = false) :
    position < (chunker.spanAt text start).stop := by
  by_contra beyond
  have cut : (rstrip (slice text start (chunker.endOf text start))).length ≤
      position - start := by
    rw [PageAwareChunker.spanAt] at beyond
    dsimp only at beyond
    omega
  have here : (slice text start (chunker.endOf text start))[position - start]? =
      some character := by
    rw [getElem?_slice (by omega), Nat.add_sub_cancel' from_]
    exact there
  rw [isSpace_of_rstrip cut here] at visible
  cases visible

/-- The chunks from a position on: each well cut, in order, and none of the text is
left out. -/
structure Covers (chunker : PageAwareChunker) (text : Text) (cursor : Nat)
    (spans : List Span) : Prop where
  wellCut : ∀ span ∈ spans, WellCut chunker text span
  from_ : ∀ span ∈ spans, cursor ≤ span.start
  increasing : (spans.map Span.start).Pairwise (· < ·)
  covered : ∀ position character, cursor ≤ position → text[position]? = some character →
    isSpace character = false → ∃ span ∈ spans, span.start ≤ position ∧ position < span.stop

/-- Nothing is left after the last chunk. -/
theorem covers_nil {cursor : Nat} (past : text.length ≤ cursor) :
    Covers chunker text cursor [] := by
  refine ⟨nofun, nofun, List.Pairwise.nil, ?_⟩
  intro position character from_ there _
  have inside := (List.getElem?_eq_some_iff.mp there).1
  omega

/-- A chunk before the ones that cover the rest of the page. -/
theorem Covers.cons {cursor next : Nat} {rest : List Span}
    (inside : skipSpaces text cursor < text.length)
    (covers : Covers chunker text next rest) (after : skipSpaces text cursor < next)
    (until_ : next ≤ chunker.endOf text (skipSpaces text cursor)) :
    Covers chunker text cursor (chunker.spanAt text (skipSpaces text cursor) :: rest) := by
  obtain ⟨leading, there, visible⟩ := visible_start inside
  constructor
  · intro span member
    rcases List.mem_cons.mp member with rfl | later
    · exact wellCut_spanAt there visible
    · exact covers.wellCut span later
  · intro span member
    have moved : cursor ≤ skipSpaces text cursor := Nat.le_add_right _ _
    rcases List.mem_cons.mp member with rfl | later
    · exact moved
    · exact (moved.trans after.le).trans (covers.from_ span later)
  · rw [List.map_cons, List.pairwise_cons]
    refine ⟨?_, covers.increasing⟩
    intro start member
    obtain ⟨span, later, rfl⟩ := List.mem_map.mp member
    exact after.trans_le (covers.from_ span later)
  · intro position character from_ found shown
    by_cases skipped : position < skipSpaces text cursor
    · rw [isSpace_of_skipped from_ skipped found] at shown
      cases shown
    · by_cases here : position < chunker.endOf text (skipSpaces text cursor)
      · have reached := mem_spanAt (Nat.not_lt.mp skipped) here found shown
        exact ⟨_, List.mem_cons_self, Nat.not_lt.mp skipped, reached⟩
      · obtain ⟨span, later, bounds⟩ := covers.covered position character
          (until_.trans (Nat.not_lt.mp here)) found shown
        exact ⟨span, List.mem_cons_of_mem _ later, bounds⟩

/-- The loop covers the text from the cursor on. -/
theorem covers_spansFrom (chunker : PageAwareChunker) (text : Text) (cursor : Nat) :
    Covers chunker text cursor (chunker.spansFrom text cursor) := by
  fun_induction PageAwareChunker.spansFrom chunker text cursor with
  | case1 cursor start past =>
      refine ⟨nofun, nofun, List.Pairwise.nil, ?_⟩
      intro position character from_ there visible
      have inside := (List.getElem?_eq_some_iff.mp there).1
      have space := isSpace_of_skipped from_ (inside.trans_le past) there
      rw [space] at visible
      cases visible
  | case2 cursor start past span rest empty =>
      obtain ⟨character, there, visible⟩ := visible_start (Nat.not_le.mp past)
      exact absurd empty (wellCut_spanAt there visible).nonempty
  | case3 cursor start past span rest _ induction =>
      have inside : skipSpaces text cursor < text.length := Nat.not_le.mp past
      obtain ⟨after, bound, _⟩ := chunker.endOf_bounds inside
      by_cases last : text.length ≤ chunker.endOf text start
      · have none_ : rest = [] := dif_pos last
        rw [none_]
        exact (covers_nil last).cons inside after (Nat.le_refl _)
      · have more : rest = chunker.spansFrom text
            (max (start + 1) (chunker.endOf text start - chunker.overlapChars)) :=
          dif_neg last
        rw [more]
        apply induction.cons inside
        · exact Nat.lt_of_succ_le (Nat.le_max_left _ _)
        · exact Nat.max_le.mpr ⟨after, Nat.sub_le _ _⟩

end Spans

/-! ## Identifiers -/

theorem isDigit_of_mem_digits {number : Nat} {character : Char}
    (member : character ∈ Nat.toDigits 10 number) : character.isDigit = true :=
  Nat.isDigit_of_mem_toDigits (by decide) (by decide) member

theorem digits_injective {first second : Nat}
    (same : Nat.toDigits 10 first = Nat.toDigits 10 second) : first = second := by
  have readBack : Nat.ofDigitChars 10 (Nat.toDigits 10 first) 0 = first :=
    Nat.ofDigitChars_ten_toDigits
  rw [← readBack, same, Nat.ofDigitChars_ten_toDigits]

theorem decimal_injective : Function.Injective decimal := by
  intro first second same
  unfold decimal at same
  split_ifs at same with negative negative' negative'
  · have digits := digits_injective (List.cons.inj same).2
    omega
  · have sign : '-' ∈ Nat.toDigits 10 second.natAbs := same ▸ List.mem_cons_self
    exact absurd (isDigit_of_mem_digits sign) (by decide)
  · have sign : '-' ∈ Nat.toDigits 10 first.natAbs := same ▸ List.mem_cons_self
    exact absurd (isDigit_of_mem_digits sign) (by decide)
  · have digits := digits_injective same
    omega

theorem colon_not_mem_decimal (number : Int) : ':' ∉ decimal number := by
  intro member
  unfold decimal at member
  split at member
  · rcases List.mem_cons.mp member with sign | digit
    · exact absurd sign (by decide)
    · exact absurd (isDigit_of_mem_digits digit) (by decide)
  · exact absurd (isDigit_of_mem_digits member) (by decide)

/-- Chunks of one document with one identity start at one place. -/
theorem eq_of_identity {documentId : String} {first second : Int} {span span' : Span}
    (same : identity documentId first span = identity documentId second span') :
    first = second ∧ span.start = span'.start := by
  have rest := List.append_cancel_left same
  obtain ⟨page, rest⟩ := separated_inj (colon_not_mem_decimal first)
    (colon_not_mem_decimal second) (List.cons.inj rest).2
  obtain ⟨start, _⟩ := separated_inj (colon_not_mem_decimal span.start)
    (colon_not_mem_decimal span'.start) rest
  exact ⟨decimal_injective page, Int.ofNat.inj (decimal_injective start)⟩

/-! ## The chunks of a document -/

section Documents

variable {digest : Text → String} {chunker : PageAwareChunker}
  {documentId contractId : String} {metadata : Metadata}

/-- What a page contributes. -/
def chunksOf (digest : Text → String) (chunker : PageAwareChunker)
    (documentId contractId : String) (metadata : Metadata) (page : PageContent) :
    List LocatedChunk :=
  chunkPage digest chunker documentId contractId (page.pageNumber.getD 0) page.text
    (metadata ++ page.metadata)

/-- The pages are numbered from one on, each with a number of its own. -/
structure Numbered (pages : List PageContent) : Prop where
  positive : ∀ page ∈ pages, ∃ number : Int, page.pageNumber = some number ∧ 1 ≤ number
  distinct : (pages.map PageContent.pageNumber).Nodup

theorem chunkEach_ok {pages : List PageContent} {seenPages : List Int}
    (numbered : Numbered pages)
    (unseen : ∀ page ∈ pages, ∀ number ∈ seenPages, page.pageNumber ≠ some number) :
    chunkEach digest chunker documentId contractId metadata pages seenPages =
      .ok (pages.flatMap (chunksOf digest chunker documentId contractId metadata)) := by
  induction pages generalizing seenPages with
  | nil => rfl
  | cons page rest induction =>
      obtain ⟨number, named, positive⟩ := numbered.positive page List.mem_cons_self
      obtain ⟨single, distinct⟩ := List.nodup_cons.mp numbered.distinct
      have admitted : ¬ (number < 1 ∨ number ∈ seenPages) := by
        rintro (small | seen)
        · omega
        · exact unseen page List.mem_cons_self number seen named
      have unseen' : ∀ other ∈ rest, ∀ seen ∈ number :: seenPages,
          other.pageNumber ≠ some seen := by
        intro other member seen inSeen
        rcases List.mem_cons.mp inSeen with rfl | earlier
        · intro same
          exact single (named ▸ same ▸ List.mem_map_of_mem member)
        · exact unseen other (List.mem_cons_of_mem _ member) seen earlier
      have later := induction
        ⟨fun other member => numbered.positive other (List.mem_cons_of_mem _ member), distinct⟩
        unseen'
      rw [chunkEach, named]
      dsimp only
      rw [if_neg admitted, later, List.flatMap_cons, chunksOf, named]
      rfl

/-- The chunks are pieces of single pages, hold all of their text, stand in order on each
page and have identifiers of their own. -/
structure Complete (chunker : PageAwareChunker) (pages : List PageContent)
    (chunks : List LocatedChunk) : Prop where
  cut : ∀ chunk ∈ chunks, ∃ page ∈ pages, chunk.pageNumber = page.pageNumber ∧
    WellCut chunker page.text ⟨chunk.startChar, chunk.endChar, chunk.text.toList⟩
  covered : ∀ page ∈ pages, ∀ position character, page.text[position]? = some character →
    isSpace character = false → ∃ chunk ∈ chunks, chunk.pageNumber = page.pageNumber ∧
      chunk.startChar ≤ position ∧ position < chunk.endChar
  ordered : chunks.Pairwise fun first second =>
    first.pageNumber = second.pageNumber → first.startChar < second.startChar
  ids : (chunks.map fun chunk => chunk.id).Nodup

theorem mem_chunksOf {page : PageContent} {chunk : LocatedChunk} :
    chunk ∈ chunksOf digest chunker documentId contractId metadata page ↔
      ∃ span ∈ chunker.spansFrom page.text 0,
        chunkOf digest documentId contractId (page.pageNumber.getD 0)
          (metadata ++ page.metadata) span = chunk :=
  List.mem_map

theorem pageNumber_of_mem {pages : List PageContent} (numbered : Numbered pages)
    {page : PageContent} (member : page ∈ pages) {chunk : LocatedChunk}
    (inPage : chunk ∈ chunksOf digest chunker documentId contractId metadata page) :
    chunk.pageNumber = page.pageNumber := by
  obtain ⟨span, _, rfl⟩ := mem_chunksOf.mp inPage
  obtain ⟨number, named, _⟩ := numbered.positive page member
  rw [chunkOf, named]
  rfl

/-- The chunks of one page start one after the other. -/
theorem ordered_chunksOf (page : PageContent) :
    (chunksOf digest chunker documentId contractId metadata page).Pairwise
      fun first second => first.startChar < second.startChar := by
  rw [chunksOf, chunkPage, List.pairwise_map]
  exact List.pairwise_map.mp (covers_spansFrom chunker page.text 0).increasing

/-- Two chunks have different identifiers unless they start at one place. -/
theorem id_ne (injective : Function.Injective digest) {page page' : PageContent}
    {chunk chunk' : LocatedChunk}
    (inPage : chunk ∈ chunksOf digest chunker documentId contractId metadata page)
    (inPage' : chunk' ∈ chunksOf digest chunker documentId contractId metadata page')
    (apart : chunk.pageNumber = chunk'.pageNumber → chunk.startChar < chunk'.startChar) :
    chunk.id ≠ chunk'.id := by
  obtain ⟨span, _, rfl⟩ := mem_chunksOf.mp inPage
  obtain ⟨span', _, rfl⟩ := mem_chunksOf.mp inPage'
  intro same
  obtain ⟨number, start⟩ := eq_of_identity (injective same)
  have less : span.start < span'.start := apart (congrArg some number)
  omega

theorem ordered_flatMap {pages : List PageContent} (numbered : Numbered pages) :
    (pages.flatMap (chunksOf digest chunker documentId contractId metadata)).Pairwise
      fun first second =>
        first.pageNumber = second.pageNumber → first.startChar < second.startChar := by
  rw [List.pairwise_flatMap]
  constructor
  · intro page _
    have ordered : (chunksOf digest chunker documentId contractId metadata page).Pairwise
        fun first second => first.startChar < second.startChar := ordered_chunksOf page
    apply ordered.imp
    intro first second less _
    exact less
  · have distinct := List.pairwise_map.mp numbered.distinct
    apply distinct.imp_of_mem
    intro page page' member member' apart chunk inPage chunk' inPage' same
    rw [pageNumber_of_mem numbered member inPage,
      pageNumber_of_mem numbered member' inPage'] at same
    exact absurd same apart

/-- Every valid chunker cuts every document with numbered pages, completely. -/
theorem chunkPages_complete (injective : Function.Injective digest)
    (chunker : PageAwareChunker) (documentNamed : isBlank documentId.toList = false)
    (contractNamed : isBlank contractId.toList = false) (metadata : Metadata)
    {pages : List PageContent} (numbered : Numbered pages) :
    ∃ chunks, chunkPages digest chunker documentId contractId pages metadata = .ok chunks ∧
      Complete chunker pages chunks := by
  refine ⟨pages.flatMap (chunksOf digest chunker documentId contractId metadata), ?_, ?_⟩
  · rw [chunkPages, documentNamed, contractNamed]
    exact chunkEach_ok numbered (by simp)
  · have ordered : (pages.flatMap (chunksOf digest chunker documentId contractId
        metadata)).Pairwise fun first second =>
          first.pageNumber = second.pageNumber → first.startChar < second.startChar :=
      ordered_flatMap numbered
    refine ⟨?_, ?_, ordered, ?_⟩
    · intro chunk member
      obtain ⟨page, inPages, inPage⟩ := List.mem_flatMap.mp member
      refine ⟨page, inPages, pageNumber_of_mem numbered inPages inPage, ?_⟩
      obtain ⟨span, inSpans, rfl⟩ := mem_chunksOf.mp inPage
      have cut := (covers_spansFrom chunker page.text 0).wellCut span inSpans
      simpa [chunkOf] using cut
    · intro page inPages position character there visible
      obtain ⟨span, inSpans, bounds⟩ := (covers_spansFrom chunker page.text 0).covered
        position character (Nat.zero_le _) there visible
      have inPage : chunkOf digest documentId contractId (page.pageNumber.getD 0)
          (metadata ++ page.metadata) span ∈
            chunksOf digest chunker documentId contractId metadata page :=
        mem_chunksOf.mpr ⟨span, inSpans, rfl⟩
      exact ⟨_, List.mem_flatMap.mpr ⟨page, inPages, inPage⟩,
        pageNumber_of_mem numbered inPages inPage, bounds⟩
    · rw [List.Nodup, List.pairwise_map]
      apply ordered.imp_of_mem
      intro chunk chunk' member member' apart
      obtain ⟨page, _, inPage⟩ := List.mem_flatMap.mp member
      obtain ⟨page', _, inPage'⟩ := List.mem_flatMap.mp member'
      exact id_ne injective inPage inPage' apart

/-- A page that is longer than a chunk, so that it is cut into overlapping windows, and a
page of white space. -/
def longPages : List PageContent :=
  [⟨some 2, (List.replicate 10 "Payment is due. ".toList).flatten, []⟩,
    ⟨some 1, " ".toList, []⟩]

def narrowChunker : PageAwareChunker where
  maxChars := 100
  overlapChars := 20
  minBoundaryChars := 60

theorem chunkPages_complete_sample :
    longPages.map (fun page => page.text.length) = [160, 1] ∧
      ∃ chunks, chunkPages String.ofList narrowChunker "document" "contract" longPages [] =
          .ok chunks ∧ Complete narrowChunker longPages chunks := by
  refine ⟨by decide +kernel, ?_⟩
  apply chunkPages_complete
  · intro first second same
    exact String.ofList_injective same
  · decide
  · decide
  · constructor
    · intro page member
      rcases List.mem_pair.mp member with rfl | rfl
      · exact ⟨2, rfl, by decide⟩
      · exact ⟨1, rfl, by decide⟩
    · decide

end Documents

end PageChunking

end ContractMate
