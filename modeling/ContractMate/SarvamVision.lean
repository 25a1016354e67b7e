import ContractMate.SarvamArchives

/-!
# Sarvam Vision OCR

A PDF is processed in groups of at most ten pages.  The pages of a group are numbered from
its offset on, and the pages of all groups are sorted by their numbers.
-/

namespace ContractMate

namespace SarvamVision

open PythonText

section Extraction

variable {Page : Type}

def maxPagesPerJob : Nat := 10

/-- The groups of a PDF's pages with their offsets, in order. -/
def pageGroups (pages : List Page) : List (List Page × Nat) :=
  (List.range ((pages.length + (maxPagesPerJob - 1)) / maxPagesPerJob)).map fun index =>
    ((pages.drop (index * maxPagesPerJob)).take maxPagesPerJob, index * maxPagesPerJob)

/-- `_split_pdf`. -/
def splitPdf (pages : List Page) : Except Exn (List (List Page × Nat)) :=
  if pages.length = 0 then .error ⟨.ocrProcessingError, "The PDF has no pages."⟩
  else if pages.length ≤ maxPagesPerJob then .ok [(pages, 0)]
  else .ok (pageGroups pages)

/-- What comes of the job for a page group: its final state, and the archive if it can be
opened. -/
structure OcrJob where
  state : String
  errorMessage : Option String := none
  archive : Option (List ArchiveMember)

/-- `getattr(status, "error_message", None) or state or "unknown state"`. -/
def OcrJob.detail (job : OcrJob) : String :=
  match job.errorMessage.filter (· ≠ "") with
  | some message => message
  | none => if job.state ≠ "" then job.state else "unknown state"

variable (casefold : String → String) (provider : List Page × Nat → Except Exn OcrJob)

/-- `_process_chunk`; the calls of the client raise, or lead to a job. -/
def processChunk (group : List Page × Nat) : Except Exn (List LaidOutPage) := do
  let job ← provider group
  if job.state ≠ "completed" then
    .error ⟨.ocrProcessingError,
      "Sarvam Vision OCR job did not complete successfully: " ++ job.detail ++ "."⟩
  else
    match job.archive with
    | none =>
        .error ⟨.ocrProcessingError, "Could not read the Sarvam Vision output archive"⟩
    | some archive => parseArchive casefold archive group.2

/-- The results of the groups, in the order in which they were submitted. -/
def collect : List (List Page × Nat) → Except Exn (List LaidOutPage)
  | [] => .ok []
  | group :: rest => do
      let pages ← processChunk casefold provider group
      let later ← collect rest
      .ok (pages ++ later)

def byNumber (first second : LaidOutPage) : Prop :=
  first.pageNumber ≤ second.pageNumber

instance : DecidableRel byNumber :=
  fun first second => Nat.decLe first.pageNumber second.pageNumber

/-- The document that the pages make up. -/
def reassemble (parsedDocument : ParsedDocument) (found : List LaidOutPage) :
    ParsedDocument where
  documentId := parsedDocument.documentId
  sha256 := parsedDocument.sha256
  mimeType := parsedDocument.mimeType
  pageCount := found.length
  pages := (found.insertionSort byNumber).map LaidOutPage.toDocumentPage
  parserName := "sarvam-vision"
  parserVersion := "document-digitization-v1"
  requiresOcr := false

/-- `extract`. -/
def extract (pages : List Page) (parsedDocument : ParsedDocument) :
    Except Exn ParsedDocument :=
  if parsedDocument.mimeType ≠ "application/pdf" then
    .error ⟨.ocrProcessingError, "Sarvam Vision OCR does not support '" ++
      parsedDocument.mimeType ++ "' in ContractMate."⟩
  else
    match (splitPdf pages).bind (collect casefold provider) with
    | .error error =>
        if error.kind = .ocrProcessingError then .error error
        else .error ⟨.ocrProcessingError, "Sarvam Vision OCR failed: " ++ error.message⟩
    | .ok found =>
        if found.isEmpty || found.all fun page => isBlank page.text.toList then
          .error ⟨.ocrProcessingError,
            "Sarvam Vision OCR completed without extracting readable text."⟩
        else .ok (reassemble parsedDocument found)

end Extraction

/-! ## Page groups -/

section Groups

variable {Page : Type} {pages : List Page}

/-- A PDF is split into its page groups. -/
theorem splitPdf_eq (some_ : pages ≠ []) : splitPdf pages = .ok (pageGroups pages) := by
  have positive := List.length_pos_iff.mpr some_
  rw [splitPdf, if_neg (by omega)]
  split
  · rename_i few
    have one : (pages.length + (maxPagesPerJob - 1)) / maxPagesPerJob = 1 := by
      rw [maxPagesPerJob] at few ⊢
      omega
    rw [pageGroups, one]
    simp [List.take_of_length_le few]
  · rfl

/-- The pages from one group on, with their numbers. -/
theorem flatMap_groups (start count : Nat) :
    (((List.range' start count).map fun index =>
        ((pages.drop (index * maxPagesPerJob)).take maxPagesPerJob,
          index * maxPagesPerJob)).flatMap
      fun group => group.1.zipIdx (group.2 + 1)) =
      ((pages.drop (start * maxPagesPerJob)).take (count * maxPagesPerJob)).zipIdx
        (start * maxPagesPerJob + 1) := by
  induction count generalizing start with
  | zero => simp
  | succ count induction =>
      rw [List.range'_succ, List.map_cons, List.flatMap_cons, induction,
        Nat.succ_mul start, ← List.drop_drop, Nat.succ_mul count, Nat.add_comm (count * _),
        List.take_add, List.zipIdx_append]
      dsimp only
      generalize pages.drop (start * maxPagesPerJob) = tail
      congr 1
      by_cases short : tail.length ≤ maxPagesPerJob
      · rw [List.drop_eq_nil_of_le short, List.take_nil]
        rfl
      · rw [List.length_take, Nat.min_eq_left (Nat.le_of_not_le short)]
        congr 1

/-- The groups hold all pages, under their numbers. -/
theorem flatMap_pageGroups :
    ((pageGroups pages).flatMap fun group => group.1.zipIdx (group.2 + 1)) =
      pages.zipIdx 1 := by
  rw [pageGroups, List.range_eq_range', flatMap_groups, Nat.zero_mul, List.drop_zero,
    List.take_of_length_le]
  rw [maxPagesPerJob]
  omega

/-- One group ends before the next one starts. -/
theorem pairwise_pageGroups :
    (pageGroups pages).Pairwise fun first second => first.2 + first.1.length ≤ second.2 := by
  rw [pageGroups, List.pairwise_map]
  apply List.pairwise_lt_range.imp
  intro first second less
  simp only [List.length_take, maxPagesPerJob]
  omega

end Groups

/-! ## Results -/

section Results

variable {Page : Type} {casefold : String → String}
  {provider : List Page × Nat → Except Exn OcrJob}

/-- The pages of a group, or none where it cannot be processed. -/
def groupPages (casefold : String → String) (provider : List Page × Nat → Except Exn OcrJob)
    (group : List Page × Nat) : List LaidOutPage :=
  match processChunk casefold provider group with
  | .ok pages => pages
  | .error _ => []

theorem groupPages_eq {group : List Page × Nat} {pages : List LaidOutPage}
    (processed : processChunk casefold provider group = .ok pages) :
    groupPages casefold provider group = pages := by
  rw [groupPages, processed]

/-- The groups can be processed. -/
def Processed (casefold : String → String) (provider : List Page × Nat → Except Exn OcrJob)
    (groups : List (List Page × Nat)) : Prop :=
  ∀ group ∈ groups, processChunk casefold provider group =
    .ok (groupPages casefold provider group)

theorem collect_ok {groups : List (List Page × Nat)} {found : List LaidOutPage} :
    collect casefold provider groups = .ok found ↔
      Processed casefold provider groups ∧
        groups.flatMap (groupPages casefold provider) = found := by
  induction groups generalizing found with
  | nil =>
      constructor
      · intro collected
        exact ⟨nofun, Except.ok.inj collected⟩
      · rintro ⟨_, rfl⟩
        rfl
  | cons group rest induction =>
      rw [collect, Processed, List.forall_mem_cons, List.flatMap_cons]
      constructor
      · intro collected
        obtain ⟨pages, processed, collected⟩ := ok_of_bind collected
        obtain ⟨later, collectedRest, collected⟩ := ok_of_bind collected
        obtain ⟨processedRest, flat⟩ := induction.mp collectedRest
        have own := groupPages_eq processed
        have whole : pages ++ later = found := Except.ok.inj collected
        refine ⟨⟨by rw [own, processed], processedRest⟩, ?_⟩
        rw [own, flat, whole]
      · rintro ⟨⟨processed, processedRest⟩, rfl⟩
        rw [processed, induction.mpr ⟨processedRest, rfl⟩]
        rfl

/-- When a document comes out, and which one. -/
theorem extract_ok {pages : List Page} {parsedDocument document : ParsedDocument} :
    extract casefold provider pages parsedDocument = .ok document ↔
      parsedDocument.mimeType = "application/pdf" ∧ pages ≠ [] ∧
        ∃ found, collect casefold provider (pageGroups pages) = .ok found ∧
          (∃ page ∈ found, isBlank page.text.toList = false) ∧
            reassemble parsedDocument found = document := by
  rw [extract]
  by_cases unsupported : parsedDocument.mimeType ≠ "application/pdf"
  · rw [if_pos unsupported]
    constructor
    · intro extracted
      cases extracted
    · rintro ⟨supported, _⟩
      exact absurd supported unsupported
  rw [if_neg unsupported]
  have supported := not_not.mp unsupported
  by_cases empty : pages = []
  · subst empty
    constructor
    · intro extracted
      cases extracted
    · rintro ⟨_, some_, _⟩
      exact absurd rfl some_
  rw [splitPdf_eq empty, Except.bind]
  cases collected : collect casefold provider (pageGroups pages) with
  | error error =>
      dsimp only
      constructor
      · intro extracted
        split at extracted <;> cases extracted
      · rintro ⟨_, _, found, collected', _⟩
        cases collected'
  | ok found =>
      dsimp only
      have readable : (found.isEmpty || found.all fun page => isBlank page.text.toList) = false ↔
          ∃ page ∈ found, isBlank page.text.toList = false := by
        cases found with
        | nil => simp
        | cons page rest => cases first : isBlank page.text.toList <;> simp [first]
      split
      · rename_i blank
        constructor
        · intro extracted
          cases extracted
        · rintro ⟨_, _, found', same, some_, _⟩
          cases same
          rw [readable.mpr some_] at blank
          cases blank
      · rename_i visible
        have some_ := readable.mp (Bool.eq_false_iff.mpr visible)
        constructor
        · intro extracted
          exact ⟨supported, empty, found, rfl, some_, Except.ok.inj extracted⟩
        · rintro ⟨_, _, found', same, _, rfl⟩
          cases same
          rfl

end Results

end SarvamVision

end ContractMate
