import ContractMate.OcrPageNumbers

/-!
# Evidence validation

The risks of a review are kept if their evidence is found on the page that they cite.  Of
several pages with one number only the last one is searched.
-/

namespace ContractMate

namespace EvidenceValidation

open PythonText

/-! ## Normalised texts -/

/-- `re.sub(r"\s+", " ", text)`; `inSpace` is set within white space. -/
def collapseFrom : Bool → Text → Text
  | _, [] => []
  | inSpace, character :: rest =>
      if isSpace character then
        if inSpace then collapseFrom true rest else ' ' :: collapseFrom true rest
      else character :: collapseFrom false rest

section Normalize

-- `unicodedata.normalize("NFKC", value)` and `value.casefold()`
variable (nfkc casefold : Text → Text)

/-- `controlled_normalize`. -/
def controlledNormalize (value : Text) : Text :=
  let spaced := (nfkc value).map fun character =>
    if character.toNat = 0xA0 then ' ' else character
  casefold (strip (collapseFrom false spaced))

/-! ## Validation -/

/-- `pages.get(number)`; the last page of a number is the one in the dictionary. -/
def pageText (document : ParsedDocument) (number : Nat) : Option Text :=
  (document.pages.reverse.find? fun page => page.pageNumber = number).map
    fun page => controlledNormalize nfkc casefold page.text.toList

/-- The text of a risk's evidence. -/
def evidenceText (risk : ContractRisk) : Text :=
  controlledNormalize nfkc casefold risk.evidence.exactText.toList

/-- The issue of a risk that is not kept. -/
def issueOf (document : ParsedDocument) (risk : ContractRisk) :
    Option EvidenceValidationIssue :=
  match pageText nfkc casefold document risk.evidence.pageNumber with
  | none => some ⟨risk.title, "PAGE_NOT_FOUND", "Evidence page does not exist."⟩
  | some text =>
      if ¬ evidenceText nfkc casefold risk <:+: text then
        some ⟨risk.title, "EVIDENCE_NOT_FOUND",
          "Evidence exact_text was not found on the referenced page."⟩
      else none

/-- A risk without an issue. -/
def isValid (document : ParsedDocument) (risk : ContractRisk) : Bool :=
  (issueOf nfkc casefold document risk).isNone

/-- `validate_review_evidence`. -/
def validateReviewEvidence (review : ContractReview) (document : ParsedDocument) :
    EvidenceValidationResult where
  validReview :=
    { review with
      risks := review.risks.filter (isValid nfkc casefold document)
      riskEvidence := fun risk member =>
        review.riskEvidence risk (List.mem_filter.mp member).1 }
  issues := review.risks.filterMap (issueOf nfkc casefold document)

/-! ## What is kept -/

/-- A page holds the evidence of a risk that cites its number. -/
def Holds (page : DocumentPage) (risk : ContractRisk) : Prop :=
  page.pageNumber = risk.evidence.pageNumber ∧
    evidenceText nfkc casefold risk <:+:
      controlledNormalize nfkc casefold page.text.toList

/-- The result is what the evidence of each risk says, and nothing else is changed. -/
structure Exact (review : ContractReview) (document : ParsedDocument)
    (result : EvidenceValidationResult) : Prop where
  kept : ∀ risk ∈ review.risks, risk ∈ result.validReview.risks ↔
    ∃ page ∈ document.pages, Holds nfkc casefold page risk
  ordered : result.validReview.risks.Sublist review.risks
  partition : ∃ removed : List ContractRisk, removed.Sublist review.risks ∧
    (result.validReview.risks ++ removed).Perm review.risks ∧
      result.issues.map EvidenceValidationIssue.riskTitle = removed.map ContractRisk.title
  unchanged : result.validReview =
    { review with
      risks := result.validReview.risks
      riskEvidence := result.validReview.riskEvidence }
  idempotent : validateReviewEvidence nfkc casefold result.validReview document =
    { validReview := result.validReview, issues := [] }

/-- No later page of the document has the number of this one. -/
def LastOfNumber (document : ParsedDocument) (page : DocumentPage) : Prop :=
  ∃ before after, document.pages = before ++ page :: after ∧
    ∀ other ∈ after, other.pageNumber ≠ page.pageNumber

/-- Where a page with the cited number has the evidence of a risk, the last one has it. -/
def LastPagesHold (review : ContractReview) (document : ParsedDocument) : Prop :=
  ∀ risk ∈ review.risks, (∃ page ∈ document.pages, Holds nfkc casefold page risk) →
    ∃ page, LastOfNumber document page ∧ Holds nfkc casefold page risk

end Normalize

section Results

variable {nfkc casefold : Text → Text} {review : ContractReview} {document : ParsedDocument}
  {risk : ContractRisk}

theorem LastOfNumber.mem {page : DocumentPage} (last : LastOfNumber document page) :
    page ∈ document.pages := by
  obtain ⟨before, after, pages, _⟩ := last
  rw [pages]
  exact List.mem_append_cons_self

/-- The dictionary has the last page of a number. -/
theorem pageText_eq_some {number : Nat} {text : Text} :
    pageText nfkc casefold document number = some text ↔
      ∃ page, LastOfNumber document page ∧ page.pageNumber = number ∧
        controlledNormalize nfkc casefold page.text.toList = text := by
  rw [pageText, Option.map_eq_some_iff]
  constructor
  · rintro ⟨page, found, same⟩
    obtain ⟨numbered, later, earlier, pages, others⟩ :=
      List.find?_eq_some_iff_append.mp found
    obtain rfl := of_decide_eq_true numbered
    refine ⟨page, ⟨earlier.reverse, later.reverse, ?_, ?_⟩, rfl, same⟩
    · rw [← List.reverse_reverse document.pages, pages]
      simp
    · intro other member
      simpa using others other (List.mem_reverse.mp member)
  · rintro ⟨page, ⟨before, after, pages, others⟩, rfl, same⟩
    refine ⟨page, ?_, same⟩
    refine List.find?_eq_some_iff_append.mpr ⟨by simp, after.reverse, before.reverse, ?_, ?_⟩
    · rw [pages]
      simp
    · intro other member
      simpa using others other (List.mem_reverse.mp member)

/-- A risk is kept if the last page of its number holds its evidence. -/
theorem isValid_iff :
    isValid nfkc casefold document risk = true ↔
      ∃ page, LastOfNumber document page ∧ Holds nfkc casefold page risk := by
  have valid : isValid nfkc casefold document risk = true ↔
      ∃ text, pageText nfkc casefold document risk.evidence.pageNumber = some text ∧
        evidenceText nfkc casefold risk <:+: text := by
    rw [isValid, issueOf]
    cases found : pageText nfkc casefold document risk.evidence.pageNumber with
    | none => simp
    | some text => by_cases held : evidenceText nfkc casefold risk <:+: text <;> simp [held]
  rw [valid]
  constructor
  · rintro ⟨text, found, held⟩
    obtain ⟨page, last, number, rfl⟩ := pageText_eq_some.mp found
    exact ⟨page, last, number, held⟩
  · rintro ⟨page, last, number, held⟩
    exact ⟨_, pageText_eq_some.mpr ⟨page, last, number, rfl⟩, held⟩

/-- What is kept is on a page: nothing is kept wrongly. -/
theorem holds_of_isValid (valid : isValid nfkc casefold document risk = true) :
    ∃ page ∈ document.pages, Holds nfkc casefold page risk := by
  obtain ⟨page, last, held⟩ := isValid_iff.mp valid
  exact ⟨page, last.mem, held⟩

/-- One issue for each removed risk, under its title. -/
theorem titles_of_issues (risks : List ContractRisk) :
    (risks.filterMap (issueOf nfkc casefold document)).map EvidenceValidationIssue.riskTitle =
      (risks.filter fun risk => !isValid nfkc casefold document risk).map
        ContractRisk.title := by
  induction risks with
  | nil => rfl
  | cons risk rest induction =>
      have title : ∀ issue, issueOf nfkc casefold document risk = some issue →
          issue.riskTitle = risk.title := by
        intro issue found
        rw [issueOf] at found
        split at found
        · cases found
          rfl
        · split at found
          · cases found
            rfl
          · cases found
      cases found : issueOf nfkc casefold document risk with
      | none =>
          have valid : isValid nfkc casefold document risk = true := by rw [isValid, found]; rfl
          rw [List.filterMap_cons_none found, List.filter_cons_of_neg (by simp [valid]),
            induction]
      | some issue =>
          have invalid : isValid nfkc casefold document risk = false := by
            rw [isValid, found]
            rfl
          rw [List.filterMap_cons_some found, List.filter_cons_of_pos (by simp [invalid]),
            List.map_cons, List.map_cons, induction, title issue found]

/-- All of what was kept is kept again. -/
theorem validate_validated :
    validateReviewEvidence nfkc casefold
        (validateReviewEvidence nfkc casefold review document).validReview document =
      { validReview := (validateReviewEvidence nfkc casefold review document).validReview
        issues := [] } := by
  have kept : (review.risks.filter (isValid nfkc casefold document)).filterMap
      (issueOf nfkc casefold document) = [] := by
    rw [List.filterMap_eq_nil_iff]
    intro risk member
    exact Option.isNone_iff_eq_none.mp (List.mem_filter.mp member).2
  simp [validateReviewEvidence, kept]

theorem exact_of_lastPagesHold (last : LastPagesHold nfkc casefold review document) :
    Exact nfkc casefold review document
      (validateReviewEvidence nfkc casefold review document) := by
  refine ⟨?_, List.filter_sublist, ?_, rfl, validate_validated⟩
  · intro risk member
    constructor
    · intro kept
      exact holds_of_isValid (List.mem_filter.mp kept).2
    · intro held
      exact List.mem_filter.mpr ⟨member, isValid_iff.mpr (last risk member held)⟩
  · exact ⟨review.risks.filter fun risk => !isValid nfkc casefold document risk,
      List.filter_sublist, List.filter_append_perm _ _, titles_of_issues _⟩

/-- The validation is exact if and only if the last pages hold what earlier pages of their
numbers hold. -/
theorem exact_iff :
    Exact nfkc casefold review document
        (validateReviewEvidence nfkc casefold review document) ↔
      LastPagesHold nfkc casefold review document := by
  constructor
  · intro exact_ risk member held
    have kept := (exact_.kept risk member).mpr held
    exact isValid_iff.mp (List.mem_filter.mp kept).2
  · exact exact_of_lastPagesHold

/-! ## Documents with distinct page numbers -/

theorem lastOfNumber_of_distinct
    (distinct : (document.pages.map fun page => page.pageNumber).Nodup)
    {page : DocumentPage} (member : page ∈ document.pages) : LastOfNumber document page := by
  obtain ⟨before, after, pages⟩ := List.append_of_mem member
  refine ⟨before, after, pages, ?_⟩
  intro other later same
  rw [pages, List.map_append, List.map_cons] at distinct
  have single := (List.nodup_cons.mp (List.nodup_append.mp distinct).2.1).1
  exact single (List.mem_map.mpr ⟨other, later, same⟩)

theorem lastPagesHold_of_distinct
    (distinct : (document.pages.map fun page => page.pageNumber).Nodup) :
    LastPagesHold nfkc casefold review document := by
  rintro risk _ ⟨page, member, held⟩
  exact ⟨page, lastOfNumber_of_distinct distinct member, held⟩

/-- The pages of the parser have distinct numbers. -/
theorem distinct_of_parse (text : Text) (documentId sha256 mimeType : String) :
    ((ParsedPages.parse text documentId sha256 mimeType).pages.map
      fun page => page.pageNumber).Nodup := by
  have numbers := ParsedPages.pageNumbers_toPages text
  rw [ParsedPages.parse, List.map_map]
  exact numbers ▸ List.nodup_range'

/-- On the documents of the parser the validation is exact. -/
theorem exact_of_parse (text : Text) (documentId sha256 mimeType : String) :
    Exact nfkc casefold review (ParsedPages.parse text documentId sha256 mimeType)
      (validateReviewEvidence nfkc casefold review
        (ParsedPages.parse text documentId sha256 mimeType)) :=
  exact_of_lastPagesHold (lastPagesHold_of_distinct
    (distinct_of_parse text documentId sha256 mimeType))

end Results

/-! ## Two pages with one number -/

section Samples

def coverRisk : ContractRisk where
  title := "Early termination"
  severity := .high
  clauseType := "termination"
  explanation := "The term may end early."
  recommendation := "Ask for notice."
  evidence := { pageNumber := 1, exactText := "cover", pageNumber_pos := first_page }
  confidence := ⟨1, certain_range⟩

def coverReview : ContractReview where
  contractId := "contract"
  contractType := "lease"
  risks := [coverRisk]
  recommendedNextAction := "Negotiate"
  riskEvidence := by decide

/-- A risk whose evidence is on the first of two pages with its number is removed. -/
theorem shadowed_page_removed :
    ∃ document, SarvamVision.extract id SarvamVision.ambiguousProvider ["Cover", "Clause 1"]
        SarvamVision.scannedDocument = .ok document ∧
      ¬ Exact id (List.map Char.toLower) coverReview document
        (validateReviewEvidence id (List.map Char.toLower) coverReview document) := by
  have outcome : (SarvamVision.extract id SarvamVision.ambiguousProvider
      ["Cover", "Clause 1"] SarvamVision.scannedDocument).toOption.map (fun document =>
        (document.pages.any fun page => page.pageNumber = 1 ∧
          evidenceText id (List.map Char.toLower) coverRisk <:+:
            controlledNormalize id (List.map Char.toLower) page.text.toList,
          (validateReviewEvidence id (List.map Char.toLower) coverReview
            document).validReview.risks.length)) = some (true, 0) := by
    decide
  cases extracted : SarvamVision.extract id SarvamVision.ambiguousProvider
      ["Cover", "Clause 1"] SarvamVision.scannedDocument with
  | error error =>
      rw [extracted] at outcome
      cases outcome
  | ok document =>
      rw [extracted] at outcome
      obtain ⟨held, removed⟩ := Prod.mk.inj (Option.some.inj outcome)
      obtain ⟨page, member, holds⟩ := List.any_eq_true.mp held
      refine ⟨document, rfl, fun exact_ => ?_⟩
      have inReview : coverRisk ∈ coverReview.risks := List.mem_singleton.mpr rfl
      have found := of_decide_eq_true holds
      have kept := (exact_.kept coverRisk inReview).mpr ⟨page, member, found⟩
      rw [List.length_eq_zero_iff.mp removed] at kept
      cases kept

end Samples

end EvidenceValidation

end ContractMate
