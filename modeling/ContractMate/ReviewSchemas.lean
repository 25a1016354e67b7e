import ContractMate.PythonText

/-!
# Documents and reviews

The validated schemas of parsed documents and contract reviews.  What pydantic
checks when a value is built is a field of the structure.
-/

namespace ContractMate

/-- `DocumentPage`. -/
structure DocumentPage where
  pageNumber : Nat
  text : String
  warnings : List String := []
  pageNumber_pos : 1 ≤ pageNumber := by decide
deriving DecidableEq

/-- `ParsedDocument`. -/
structure ParsedDocument where
  documentId : String
  sha256 : String
  mimeType : String
  pageCount : Nat
  pages : List DocumentPage
  parserName : String
  parserVersion : String
  requiresOcr : Bool := false
deriving DecidableEq

/-- `RiskSeverity`. -/
inductive RiskSeverity where
  | low
  | medium
  | high
  | critical
deriving DecidableEq, Repr

def RiskSeverity.value : RiskSeverity → String
  | low => "low"
  | medium => "medium"
  | high => "high"
  | critical => "critical"

/-- `Evidence`. -/
structure Evidence where
  pageNumber : Nat
  exactText : String
  pageNumber_pos : 1 ≤ pageNumber := by decide
  exactText_nonempty : exactText ≠ "" := by decide
deriving DecidableEq

/-- `ContractParty`. -/
structure ContractParty where
  name : String
  role : Option String := none
  evidence : Option Evidence := none
deriving DecidableEq

/-- A confidence: a number between zero and one. -/
abbrev Confidence := { value : ℚ // 0 ≤ value ∧ value ≤ 1 }

theorem certain_range : (0 : ℚ) ≤ 1 ∧ (1 : ℚ) ≤ 1 := by
  decide

theorem first_page : 1 ≤ 1 :=
  le_rfl

/-- `ContractTerm`. -/
structure ContractTerm where
  name : String
  value : Option String
  evidence : Option Evidence := none
  confidence : Confidence
deriving DecidableEq

/-- `ContractRisk`. -/
structure ContractRisk where
  title : String
  severity : RiskSeverity
  clauseType : String
  explanation : String
  recommendation : String
  evidence : Evidence
  confidence : Confidence
deriving DecidableEq

theorem no_risk_evidence : ∀ risk ∈ ([] : List ContractRisk),
    PythonText.isBlank risk.evidence.exactText.toList = false := by
  simp

/-- `ContractReview`, with the check of `require_risk_evidence`. -/
structure ContractReview where
  contractId : String
  contractType : String
  parties : List ContractParty := []
  keyTerms : List ContractTerm := []
  risks : List ContractRisk := []
  recommendedNextAction : String
  limitations : List String := []
  riskEvidence : ∀ risk ∈ risks,
      PythonText.isBlank risk.evidence.exactText.toList = false := by
    first | exact no_risk_evidence | simp
deriving DecidableEq

/-- `EvidenceValidationIssue`. -/
structure EvidenceValidationIssue where
  riskTitle : String
  errorCode : String
  message : String
deriving DecidableEq, Repr

/-- `EvidenceValidationResult`. -/
structure EvidenceValidationResult where
  validReview : ContractReview
  issues : List EvidenceValidationIssue
deriving DecidableEq

/-- The result of `validate_uploaded_file`. -/
structure FileValidation where
  ok : Bool
  mimeType : Option String := none
  sha256 : Option String := none
  sizeBytes : Nat := 0
  errorCode : Option String := none
  message : Option String := none
deriving DecidableEq, Repr

end ContractMate
