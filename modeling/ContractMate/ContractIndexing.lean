import ContractMate.ChatTools
import ContractMate.JsonText
import ContractMate.LabelledItems
import ContractMate.PageChunking
import ContractMate.ProgramTraces
import ContractMate.RateLimitDecisions
import ContractMate.ReviewSchemas

/-!
# Indexing a contract

The chunks of a document and its review are embedded in batches.  The provider answers
each batch in any order, its vectors labelled with their positions in the batch; what is
stored with a chunk is the vector of that chunk's text, or nothing is stored.
-/

namespace ContractMate

namespace ContractIndexing

open PythonText PageChunking

open ChatEvidence (Metadata MetadataValue)

open ChatTools (stringValue)

/-! ## The embeddings client -/

/-- `EmbeddingVector`. -/
structure EmbeddingVector where
  index : Int
  values : List JsonFloat
deriving DecidableEq

/-- An item of a response, as `_request_embeddings` passes it on. -/
structure EmbeddingItem where
  index : Json
  embedding : Json

structure KnowledgeIndexSpec where
  workspaceId : String
  contractId : String
  contractVersionId : String
  documentId : String
  embeddingProvider : String
  embeddingModel : String
  embeddingDimensions : Nat
  rerankerProvider : String
  rerankerModel : String
  chunkingVersion : String
deriving DecidableEq, Repr

structure KnowledgeChunkPayload where
  id : String
  ordinal : Nat
  content : String
  contentSha256 : String
  pageStart : Option Int
  pageEnd : Option Int
  tokenCount : Nat
  metadata : Metadata
  embedding : List JsonFloat
deriving DecidableEq

/-- The request to the provider and the call of the backend. -/
inductive IndexingCall where
  | createEmbeddings (model : String) (input : List Text) (dimensions : Nat)
  | replaceIndex (spec : KnowledgeIndexSpec) (chunks : List KnowledgeChunkPayload)

def IndexingCall.Ret : IndexingCall → Type
  | createEmbeddings _ _ _ => List EmbeddingItem
  | replaceIndex _ _ => Unit

abbrev IndexingProg := Prog IndexingCall IndexingCall.Ret Exn

abbrev IndexingLog := List (Prog.Answered IndexingCall IndexingCall.Ret Exn)

/-- `OpenRouterAPIError`, a `RuntimeError`. -/
def openRouterApiError (message : String) : Exn :=
  Exn.runtimeError message

/-- `isinstance(value, int)`; a `bool` is one. -/
def asInt? : Json → Option Int
  | .int value => some value
  | .bool value => some (if value then 1 else 0)
  | _ => none

/-- `isinstance(value, Real)` without the `bool`s. -/
def isReal : Json → Bool
  | .int _ | .float _ => true
  | _ => false

/-- An `OpenRouterEmbeddingsClient` that its `__post_init__` has let through. -/
structure OpenRouterEmbeddingsClient where
  modelId : String
  dimensions : Nat := 1024
  dimensions_pos : 1 ≤ dimensions := by decide

section Client

-- `float` of an `int`, which may be too large
variable (floatOfInt : Int → Option JsonFloat)

/-- `float(value)`. -/
def toFloat : Json → Except Exn JsonFloat
  | .float value => .ok value
  | .int value =>
      match floatOfInt value with
      | some value => .ok value
      | none => .error ⟨.otherError, "int too large to convert to float"⟩
  | _ => .error ⟨.otherError, "TypeError"⟩

/-- The body of the loop over the items. -/
def readItem (item : EmbeddingItem) : Except Exn EmbeddingVector :=
  match asInt? item.index, item.embedding with
  | some index, .list values =>
      if values.isEmpty || values.any (fun value => !isReal value) then
        .error (openRouterApiError
          "OpenRouter embeddings response contained an invalid vector.")
      else do
        let values ← values.mapM (toFloat floatOfInt)
        .ok { index, values }
  | _, _ =>
      .error (openRouterApiError
        "OpenRouter embeddings response contained an invalid vector.")

namespace OpenRouterEmbeddingsClient

variable (client : OpenRouterEmbeddingsClient)

/-- `_request_embeddings`. -/
def requestEmbeddings (cleaned : List Text) : IndexingProg (List EmbeddingItem) :=
  Prog.tryExcept
    (Prog.perform (IndexingCall.createEmbeddings client.modelId cleaned client.dimensions))
    fun _ => .raise (openRouterApiError "OpenRouter embeddings request failed.")

/-- What `embed_documents` makes of the response to a number of texts. -/
def readVectors (count : Nat) (data : List EmbeddingItem) :
    Except Exn (List EmbeddingVector) :=
  if data.length ≠ count then
    .error (openRouterApiError
      "OpenRouter embeddings response did not match the requested inputs.")
  else do
    let vectors ← data.mapM (readItem floatOfInt)
    let vectors := LabelledItems.sorted EmbeddingVector.index vectors
    if vectors.map EmbeddingVector.index ≠ LabelledItems.positions 0 count then
      .error (openRouterApiError
        "OpenRouter embeddings response contained invalid indices.")
    else
      match (vectors.map fun vector => vector.values.length).dedup with
      | [actualDimensions] =>
          if actualDimensions ≠ client.dimensions then
            .error (openRouterApiError
              ("OpenRouter embeddings response dimension mismatch: expected " ++
                toString client.dimensions ++ ", got " ++ toString actualDimensions ++
                "."))
          else .ok vectors
      | _ =>
          .error (openRouterApiError
            "OpenRouter embeddings response contained inconsistent dimensions.")

/-- `embed_documents`. -/
def embedDocuments (texts : List Text) : IndexingProg (List EmbeddingVector) :=
  let cleaned := texts.map strip
  if cleaned.isEmpty || cleaned.any List.isEmpty then
    .raise (Exn.valueError "At least one non-empty text is required for embeddings.")
  else do
    let data ← client.requestEmbeddings cleaned
    Prog.done (client.readVectors floatOfInt cleaned.length data)

end OpenRouterEmbeddingsClient

end Client

/-! ## The chunks of a contract -/

section Chunks

-- `hashlib.sha256(…).hexdigest()` of a text in UTF-8, `repr` of a list of texts and
-- `f"{confidence:.3f}"`
variable (sha256 : Text → Text) (reprTexts : List String → String)
  (threePlaces : Confidence → String)

/-- The head of a digest. -/
def chunkDigest (text : Text) : String :=
  String.ofList ((sha256 text).take 24)

/-- The pages for the chunker. -/
def pageContents (document : ParsedDocument) : List PageContent :=
  document.pages.map fun page =>
    { pageNumber := some page.pageNumber
      text := page.text.toList
      metadata := [("warnings", ⟨!page.warnings.isEmpty, reprTexts page.warnings⟩)] }

/-- The metadata of every document chunk. -/
def documentMetadata (document : ParsedDocument) : Metadata :=
  [("source", stringValue "parsed_document"),
    ("document_sha256", stringValue document.sha256),
    ("mime_type", stringValue document.mimeType),
    ("parser_name", stringValue document.parserName),
    ("parser_version", stringValue document.parserVersion)]

/-- An entry of `_review_chunks`. -/
structure ReviewEntry where
  kind : String
  pageNumber : Option Int
  text : String
  metadata : Metadata

def evidenceLine : Option Evidence → String
  | some evidence => "\nEvidence: " ++ evidence.exactText
  | none => ""

def evidencePage (evidence : Option Evidence) : Option Int :=
  evidence.map fun evidence => (evidence.pageNumber : Int)

def overviewEntry (review : ContractReview) : ReviewEntry where
  kind := "review_overview"
  pageNumber := none
  text := "\n".intercalate
    (["Contract type: " ++ review.contractType,
        "Recommended next action: " ++ review.recommendedNextAction] ++
      if review.limitations.isEmpty then []
      else ["Limitations: " ++ "; ".intercalate review.limitations])
  metadata := [("contract_type", stringValue review.contractType)]

def partyEntry (party : ContractParty) : ReviewEntry where
  kind := "party"
  pageNumber := evidencePage party.evidence
  text := "Party: " ++ party.name ++ "\nRole: " ++
    (truthy party.role).getD "Not specified" ++ evidenceLine party.evidence
  metadata := [("party_name", stringValue party.name)]

def termEntry (term : ContractTerm) : ReviewEntry where
  kind := "key_term"
  pageNumber := evidencePage term.evidence
  text := "Key term: " ++ term.name ++ "\nValue: " ++
    (truthy term.value).getD "Not specified" ++ "\nConfidence: " ++
    threePlaces term.confidence ++ evidenceLine term.evidence
  metadata := [("term_name", stringValue term.name)]

def riskEntry (risk : ContractRisk) : ReviewEntry where
  kind := "risk"
  pageNumber := some risk.evidence.pageNumber
  text := "Risk: " ++ risk.title ++ "\nSeverity: " ++ risk.severity.value ++
    "\nClause type: " ++ risk.clauseType ++ "\nExplanation: " ++ risk.explanation ++
    "\nRecommendation: " ++ risk.recommendation ++ "\nEvidence: " ++
    risk.evidence.exactText ++ "\nConfidence: " ++ threePlaces risk.confidence
  metadata := [("risk_title", stringValue risk.title),
    ("severity", stringValue risk.severity.value),
    ("clause_type", stringValue risk.clauseType)]

def reviewEntries (review : ContractReview) : List ReviewEntry :=
  overviewEntry review :: (review.parties.map partyEntry ++
    review.keyTerms.map (termEntry threePlaces) ++ review.risks.map (riskEntry threePlaces))

/-- `json.dumps([document_id, contract_id, kind, position, page_number, text], …)`. -/
def entryIdentity (documentId contractId : String) (entry : ReviewEntry)
    (position : Nat) : Text :=
  JsonText.write .compact JsonText.writeInt
    (.list [.text documentId, .text contractId, .text entry.kind, .number position,
      (entry.pageNumber.map .number).getD .null, .text entry.text])

def entryChunk (documentId contractId : String) (entry : ReviewEntry) (position : Nat) :
    LocatedChunk where
  id := chunkDigest sha256 (entryIdentity documentId contractId entry position)
  documentId := documentId
  contractId := contractId
  pageNumber := entry.pageNumber
  text := entry.text
  startChar := 0
  endChar := entry.text.length
  metadata :=
    [("source", stringValue "contract_review"),
      ("review_kind", stringValue entry.kind)] ++ entry.metadata

/-- `_review_chunks`. -/
def reviewChunks (documentId contractId : String) (review : ContractReview) :
    List LocatedChunk :=
  (reviewEntries threePlaces review).mapIdx fun position entry =>
    entryChunk sha256 documentId contractId entry position

/-- `DocumentChunk.citation`. -/
def citation (chunk : LocatedChunk) : String :=
  match chunk.pageNumber with
  | none => chunk.contractId ++ " review"
  | some number => chunk.contractId ++ " p." ++ toString number

/-- `_payload`. -/
def payload (chunk : LocatedChunk) (ordinal : Nat) (embedding : List JsonFloat) :
    KnowledgeChunkPayload where
  id := chunk.id
  ordinal := ordinal
  content := chunk.text
  contentSha256 := String.ofList (sha256 chunk.text.toList)
  pageStart := chunk.pageNumber
  pageEnd := chunk.pageNumber
  tokenCount := max 1 ((chunk.text.length + 3) / 4)
  metadata := chunk.metadata ++ [("citation", stringValue (citation chunk)),
    ("document_id", stringValue chunk.documentId)]
  embedding := embedding

end Chunks

/-! ## The service -/

/-- A `KnowledgeIndexingService` that its `__post_init__` has let through. -/
structure KnowledgeIndexingService where
  embeddings : OpenRouterEmbeddingsClient
  embeddingModel : String
  rerankerModel : String
  chunker : PageAwareChunker := {}
  embeddingDimensions : Nat := 1024
  embeddingProvider : String := "openrouter"
  rerankerProvider : String := "openrouter"
  chunkingVersion : String := "page-aware-char-v1"
  embeddingBatchSize : Nat := 32
  models_named : isBlank embeddingModel.toList = false ∧
    isBlank rerankerModel.toList = false := by decide
  dimensions_pos : 1 ≤ embeddingDimensions := by decide
  batchSize_pos : 1 ≤ embeddingBatchSize := by decide

/-- The arguments of `index_contract`; `review` is what `ContractReview.model_validate`
returns or raises. -/
structure IndexRequest where
  workspaceId : String
  contractId : String
  contractVersionId : String
  parsedDocument : ParsedDocument
  review : Except Exn ContractReview

structure KnowledgeIndexingResult where
  workspaceId : String
  contractId : String
  contractVersionId : String
  chunkCount : Nat
  embeddingDimensions : Nat
deriving DecidableEq, Repr

section Service

variable (floatOfInt : Int → Option JsonFloat) (sha256 : Text → Text)
  (reprTexts : List String → String) (threePlaces : Confidence → String)

namespace KnowledgeIndexingService

variable (service : KnowledgeIndexingService) (request : IndexRequest)

/-- A vector with its position among all texts. -/
def shift (start : Nat) (vector : EmbeddingVector) : EmbeddingVector :=
  { vector with index := start + vector.index }

/-- The loop of `_embed` from a text on. -/
def embedFrom (start : Nat) : List Text → IndexingProg (List EmbeddingVector)
  | [] => pure []
  | text :: rest => do
      let batch := (text :: rest).take service.embeddingBatchSize
      let batchVectors ← service.embeddings.embedDocuments floatOfInt batch
      if batchVectors.length ≠ batch.length then
        .raise (Exn.valueError "Embedding provider returned the wrong number of vectors.")
      else
        match batchVectors.find? fun vector =>
            vector.values.length ≠ service.embeddingDimensions with
        | some vector =>
            .raise (Exn.valueError ("Embedding dimension mismatch: expected " ++
              toString service.embeddingDimensions ++ ", got " ++
              toString vector.values.length ++ "."))
        | none => do
            let vectors ← embedFrom (start + service.embeddingBatchSize)
              ((text :: rest).drop service.embeddingBatchSize)
            pure (batchVectors.map (shift start) ++ vectors)
  termination_by texts => texts.length
  decreasing_by
    have := service.batchSize_pos
    simp only [List.length_drop, List.length_cons]
    omega

/-- `_embed`. -/
def embed (texts : List Text) : IndexingProg (List EmbeddingVector) := do
  let vectors ← service.embedFrom floatOfInt 0 texts
  let vectors := LabelledItems.sorted EmbeddingVector.index vectors
  if vectors.map EmbeddingVector.index ≠ LabelledItems.positions 0 texts.length then
    .raise (Exn.valueError "Embedding provider returned invalid batch indices.")
  else pure vectors

/-- The chunks of `index_contract`, after its checks. -/
def chunks : Except Exn (List LocatedChunk) :=
  if isBlank request.workspaceId.toList || isBlank request.contractId.toList ||
      isBlank request.contractVersionId.toList then
    .error (Exn.valueError
      "workspace_id, contract_id, and contract_version_id are required.")
  else do
    let review ← request.review
    if review.contractId ≠ request.contractId then
      .error (Exn.valueError "Review contract_id does not match the indexed contract.")
    else do
      let documentChunks ← chunkPages (chunkDigest sha256) service.chunker
        request.parsedDocument.documentId request.contractId
        (pageContents reprTexts request.parsedDocument)
        (documentMetadata request.parsedDocument)
      let all := documentChunks ++ reviewChunks sha256 threePlaces
        request.parsedDocument.documentId request.contractId review
      if all.isEmpty then
        .error (Exn.valueError
          "Parsed document and review produced no indexable content.")
      else .ok all

/-- The chunks with their vectors; `vectors[ordinal]` may be out of range. -/
def payloads (vectors : List EmbeddingVector) (chunks : List LocatedChunk) :
    Except Exn (List KnowledgeChunkPayload) :=
  chunks.zipIdx.mapM fun (chunk, ordinal) =>
    match vectors[ordinal]? with
    | some vector => .ok (payload sha256 chunk ordinal vector.values)
    | none => .error ⟨.otherError, "tuple index out of range"⟩

def spec : KnowledgeIndexSpec where
  workspaceId := request.workspaceId
  contractId := request.contractId
  contractVersionId := request.contractVersionId
  documentId := request.parsedDocument.documentId
  embeddingProvider := service.embeddingProvider
  embeddingModel := service.embeddingModel
  embeddingDimensions := service.embeddingDimensions
  rerankerProvider := service.rerankerProvider
  rerankerModel := service.rerankerModel
  chunkingVersion := service.chunkingVersion

def result (chunkCount : Nat) : KnowledgeIndexingResult where
  workspaceId := request.workspaceId
  contractId := request.contractId
  contractVersionId := request.contractVersionId
  chunkCount := chunkCount
  embeddingDimensions := service.embeddingDimensions

/-- `replace_index` of the backend. -/
def replaceIndex (chunks : List KnowledgeChunkPayload) : IndexingProg Unit :=
  Prog.perform (IndexingCall.replaceIndex (service.spec request) chunks)

/-- `index_contract`. -/
def indexContract : IndexingProg KnowledgeIndexingResult := do
  let chunks ← Prog.done (service.chunks sha256 reprTexts threePlaces request)
  let vectors ← service.embed floatOfInt (chunks.map fun chunk => chunk.text.toList)
  let payloads ← Prog.done (payloads sha256 vectors chunks)
  service.replaceIndex request payloads
  pure (service.result request payloads.length)

end KnowledgeIndexingService

end Service

/-! ## Responses -/

section Responses

variable (floatOfInt : Int → Option JsonFloat)

/-- Vectors with their positions. -/
def labelled (start : Nat) : List (List JsonFloat) → List EmbeddingVector
  | [] => []
  | values :: rest => ⟨start, values⟩ :: labelled (start + 1) rest

/-- An item gives a vector of numbers to a position. -/
def Holds (item : EmbeddingItem) (vector : EmbeddingVector) : Prop :=
  asInt? item.index = some vector.index ∧ vector.values ≠ [] ∧
    ∃ values, item.embedding = .list values ∧
      List.Forall₂ (fun value number => toFloat floatOfInt value = .ok number) values
        vector.values

/-- A response gives each position its vector, in whatever order. -/
def Answers (dimensions : Nat) (data : List EmbeddingItem)
    (assigned : List (List JsonFloat)) : Prop :=
  (∀ values ∈ assigned, values.length = dimensions) ∧
    ∃ inOrder, data.Perm inOrder ∧
      List.Forall₂ (Holds floatOfInt) inOrder (labelled 0 assigned)

variable {floatOfInt} {assigned : List (List JsonFloat)} {start : Nat}
  {item : EmbeddingItem} {vector : EmbeddingVector}

theorem index_labelled (start : Nat) (assigned : List (List JsonFloat)) :
    (labelled start assigned).map EmbeddingVector.index =
      LabelledItems.positions start assigned.length := by
  induction assigned generalizing start with
  | nil => rfl
  | cons values rest induction =>
      rw [labelled, List.map_cons, induction, List.length_cons,
        LabelledItems.positions_succ]

theorem values_labelled (start : Nat) (assigned : List (List JsonFloat)) :
    (labelled start assigned).map EmbeddingVector.values = assigned := by
  induction assigned generalizing start with
  | nil => rfl
  | cons values rest induction => rw [labelled, List.map_cons, induction]

theorem values_mem (member : vector ∈ labelled start assigned) :
    vector.values ∈ assigned := by
  rw [← values_labelled start assigned]
  exact List.mem_map.mpr ⟨vector, member, rfl⟩

theorem length_labelled (start : Nat) (assigned : List (List JsonFloat)) :
    (labelled start assigned).length = assigned.length := by
  rw [← List.length_map EmbeddingVector.values, values_labelled]

theorem labelled_append (start : Nat) (first second : List (List JsonFloat)) :
    labelled start (first ++ second) =
      labelled start first ++ labelled (start + first.length) second := by
  induction first generalizing start with
  | nil => rfl
  | cons values rest induction =>
      rw [List.cons_append, labelled, labelled, induction, List.length_cons,
        List.cons_append, Nat.add_assoc, Nat.add_comm 1]

theorem shift_labelled (start first : Nat) (assigned : List (List JsonFloat)) :
    (labelled first assigned).map (KnowledgeIndexingService.shift start) =
      labelled (start + first) assigned := by
  induction assigned generalizing first with
  | nil => rfl
  | cons values rest induction =>
      rw [labelled, List.map_cons, induction, labelled]
      simp [KnowledgeIndexingService.shift, Nat.add_assoc]

/-- Vectors whose labels are their positions. -/
theorem eq_labelled {vectors : List EmbeddingVector} {count : Nat}
    (inPlace : vectors.map EmbeddingVector.index = LabelledItems.positions start count) :
    vectors = labelled start (vectors.map EmbeddingVector.values) ∧
      vectors.length = count := by
  induction vectors generalizing start count with
  | nil =>
      cases count with
      | zero => exact ⟨rfl, rfl⟩
      | succ count =>
          rw [LabelledItems.positions_succ] at inPlace
          cases inPlace
  | cons vector rest induction =>
      cases count with
      | zero => cases inPlace
      | succ count =>
          rw [LabelledItems.positions_succ, List.map_cons] at inPlace
          obtain ⟨here, later⟩ := List.cons.inj inPlace
          obtain ⟨same, length⟩ := induction later
          refine ⟨?_, by rw [List.length_cons, length]⟩
          rw [List.map_cons, labelled, ← same, ← here]

theorem isReal_of_toFloat {value : Json} {number : JsonFloat}
    (read : toFloat floatOfInt value = .ok number) : isReal value = true := by
  cases value <;> simp_all [toFloat, isReal]

/-- An item is read as what it holds. -/
theorem readItem_ok_iff :
    readItem floatOfInt item = .ok vector ↔ Holds floatOfInt item vector := by
  obtain ⟨index, values⟩ := vector
  rw [readItem, Holds]
  split
  · rename_i index' values' named listed
    rw [named, listed]
    constructor
    · intro read
      split at read
      · cases read
      · rename_i checked
        simp only [Bool.or_eq_true, List.isEmpty_iff, not_or] at checked
        cases floats : values'.mapM (toFloat floatOfInt) with
        | error error =>
            rw [floats] at read
            cases read
        | ok numbers =>
            rw [floats] at read
            cases read
            have all := LabelledItems.mapM_ok_iff.mp floats
            refine ⟨rfl, ?_, values', rfl, all⟩
            rintro rfl
            exact checked.1 (List.forall₂_nil_right_iff.mp all)
    · rintro ⟨same, nonempty, raws, sameRaws, all⟩
      cases same
      cases sameRaws
      have some_ : values' ≠ [] := by
        rintro rfl
        exact nonempty (List.forall₂_nil_left_iff.mp all)
      have real : ∀ value ∈ values', isReal value = true := by
        intro value member
        obtain ⟨number, _, read⟩ := LabelledItems.exists_of_forall₂ all value member
        exact isReal_of_toFloat read
      have checked : ¬ (values'.isEmpty || values'.any fun value => !isReal value) = true := by
        simp only [Bool.or_eq_true, List.isEmpty_iff, List.any_eq_true, Bool.not_eq_true',
          not_or, not_exists, not_and, Bool.not_eq_false]
        exact ⟨some_, real⟩
      rw [if_neg checked, LabelledItems.mapM_ok_iff.mpr all]
      rfl
  · rename_i other
    constructor
    · nofun
    · rintro ⟨named, _, raws, listed, _⟩
      exact absurd listed (other _ _ named)

/-- A set of dimensions with one member. -/
theorem dedup_eq_singleton_iff {dimensions : List Nat} {only : Nat} :
    dimensions.dedup = [only] ↔ dimensions ≠ [] ∧ ∀ other ∈ dimensions, other = only := by
  constructor
  · intro single
    constructor
    · rintro rfl
      cases single
    · intro other member
      rw [← List.mem_dedup, single] at member
      exact List.mem_singleton.mp member
  · rintro ⟨nonempty, all⟩
    rw [List.eq_replicate_of_mem all]
    exact List.replicate_dedup (List.length_pos_iff.mpr nonempty).ne'

theorem answers_iff {dimensions : Nat} {data : List EmbeddingItem} :
    Answers floatOfInt dimensions data assigned ↔
      (∀ values ∈ assigned, values.length = dimensions) ∧
        ∃ found, data.mapM (readItem floatOfInt) = .ok found ∧
          found.Perm (labelled 0 assigned) := by
  rw [Answers, LabelledItems.mapM_perm_iff]
  simp only [readItem_ok_iff]

/-- The client accepts a response just when it gives every position one vector of the right
dimension. -/
theorem readVectors_ok_iff {client : OpenRouterEmbeddingsClient} {count : Nat}
    {data : List EmbeddingItem} {vectors : List EmbeddingVector} (positive : 0 < count) :
    client.readVectors floatOfInt count data = .ok vectors ↔
      ∃ assigned, assigned.length = count ∧ vectors = labelled 0 assigned ∧
        Answers floatOfInt client.dimensions data assigned := by
  simp only [answers_iff]
  constructor
  · intro read
    rw [OpenRouterEmbeddingsClient.readVectors] at read
    split at read
    · cases read
    · cases mapped : data.mapM (readItem floatOfInt) with
      | error error =>
          rw [mapped] at read
          cases read
      | ok found =>
          rw [mapped] at read
          simp only [bind, Except.bind] at read
          split at read
          · cases read
          · rename_i inPlace
            obtain ⟨same, length⟩ := eq_labelled (not_not.mp inPlace)
            split at read
            · rename_i actual dimensions
              split at read
              · cases read
              · rename_i right
                cases read
                refine ⟨_, by rw [List.length_map, length], same, ?_, found, rfl, ?_⟩
                · intro values member
                  obtain ⟨vector, inside, rfl⟩ := List.mem_map.mp member
                  rw [← not_not.mp right]
                  exact (dedup_eq_singleton_iff.mp dimensions).2 _
                    (List.mem_map.mpr ⟨vector, inside, rfl⟩)
                · rw [← same]
                  exact (LabelledItems.perm_sorted found).symm
            · cases read
  · rintro ⟨assigned, rfl, rfl, dimensions, found, mapped, same⟩
    have inPlace := index_labelled 0 assigned
    have sorted : LabelledItems.sorted EmbeddingVector.index found = labelled 0 assigned :=
      LabelledItems.sorted_eq_of_perm same inPlace
    have length : data.length = assigned.length := by
      rw [(LabelledItems.mapM_ok_iff.mp mapped).length_eq, same.length_eq, length_labelled]
    have single : ((labelled 0 assigned).map fun vector => vector.values.length).dedup =
        [client.dimensions] := by
      rw [dedup_eq_singleton_iff]
      constructor
      · rw [Ne, List.map_eq_nil_iff, ← List.length_eq_zero_iff, length_labelled]
        omega
      · intro other member
        obtain ⟨vector, inside, rfl⟩ := List.mem_map.mp member
        exact dimensions _ (values_mem inside)
    rw [OpenRouterEmbeddingsClient.readVectors, if_neg (not_not.mpr length), mapped]
    simp only [bind, Except.bind, sorted, inPlace, single, ne_eq, not_true, if_false]

end Responses

/-! ## The texts of the chunks -/

section Texts

variable {sha256 : Text → Text} {reprTexts : List String → String}
  {threePlaces : Confidence → String}

theorem strip_ne_nil_of_mem {text : Text} {character : Char} (member : character ∈ text)
    (visible : isSpace character = false) : strip text ≠ [] := by
  rw [Ne, strip_eq_nil_iff, isBlank, List.all_eq_true]
  intro blank
  rw [blank character member] at visible
  cases visible

/-- Every entry starts with its label. -/
theorem visible_of_reviewEntries {review : ContractReview} :
    ∀ entry ∈ reviewEntries threePlaces review, strip entry.text.toList ≠ [] := by
  intro entry member
  simp only [reviewEntries, List.mem_cons, List.mem_append, List.mem_map] at member
  rcases member with rfl | (⟨party, _, rfl⟩ | ⟨term, _, rfl⟩) | ⟨risk, _, rfl⟩
  · apply strip_ne_nil_of_mem (show 'C' ∈ _ from ?_) (by decide)
    simp [overviewEntry, String.intercalate_cons_cons, String.toList_append]
  · apply strip_ne_nil_of_mem (show 'P' ∈ _ from ?_) (by decide)
    simp [partyEntry, String.toList_append]
  · apply strip_ne_nil_of_mem (show 'K' ∈ _ from ?_) (by decide)
    simp [termEntry, String.toList_append]
  · apply strip_ne_nil_of_mem (show 'R' ∈ _ from ?_) (by decide)
    simp [riskEntry, String.toList_append]

theorem visible_of_reviewChunks {documentId contractId : String} {review : ContractReview} :
    ∀ chunk ∈ reviewChunks sha256 threePlaces documentId contractId review,
      strip chunk.text.toList ≠ [] := by
  intro chunk member
  obtain ⟨position, inside, rfl⟩ := List.mem_mapIdx.mp member
  exact visible_of_reviewEntries _ (List.getElem_mem inside)

/-- The chunker cuts no blank chunk. -/
theorem visible_of_chunkEach {digest : Text → String} {chunker : PageAwareChunker}
    {documentId contractId : String} {metadata : Metadata} {pages : List PageContent}
    {seenPages : List Int} {chunks : List LocatedChunk}
    (cut : chunkEach digest chunker documentId contractId metadata pages seenPages =
      .ok chunks) : ∀ chunk ∈ chunks, strip chunk.text.toList ≠ [] := by
  induction pages generalizing seenPages chunks with
  | nil =>
      cases cut
      nofun
  | cons page rest induction =>
      rw [chunkEach] at cut
      split at cut
      · cases cut
      · split at cut
        · cases cut
        · cases later : chunkEach digest chunker documentId contractId metadata rest
            (_ :: seenPages) with
          | error error =>
              rw [later] at cut
              cases cut
          | ok others =>
              rw [later] at cut
              cases cut
              intro chunk member
              rcases List.mem_append.mp member with here | there
              · obtain ⟨span, inside, rfl⟩ := List.mem_map.mp here
                have cut := (covers_spansFrom chunker page.text 0).wellCut span inside
                simpa [chunkOf, cut.stripped] using cut.nonempty
              · exact induction later chunk there

theorem visible_of_chunks {service : KnowledgeIndexingService} {request : IndexRequest}
    {chunks : List LocatedChunk}
    (cut : service.chunks sha256 reprTexts threePlaces request = .ok chunks) :
    ∀ chunk ∈ chunks, strip chunk.text.toList ≠ [] := by
  rw [KnowledgeIndexingService.chunks] at cut
  split at cut
  · cases cut
  · cases reviewed : request.review with
    | error error =>
        rw [reviewed] at cut
        cases cut
    | ok review =>
        rw [reviewed] at cut
        simp only [bind, Except.bind] at cut
        split at cut
        · cases cut
        · split at cut
          · cases cut
          · rename_i documentChunks paged
            split at cut
            · cases cut
            · cases cut
              rw [chunkPages] at paged
              split at paged
              · cases paged
              · intro chunk member
                rcases List.mem_append.mp member with here | there
                · exact visible_of_chunkEach paged chunk here
                · exact visible_of_reviewChunks chunk there

end Texts

/-! ## Runs of the service -/

section Runs

variable (floatOfInt : Int → Option JsonFloat) (service : KnowledgeIndexingService)

/-- The request for a batch. -/
def batchRequest (batch : List Text) : IndexingCall :=
  .createEmbeddings service.embeddings.modelId (batch.map strip)
    service.embeddings.dimensions

/-- An answer to a request for a number of texts that gives every text one vector, of the
dimension that the client and the service expect. -/
def Accepts (count : Nat) (reply : Except Exn (List EmbeddingItem))
    (assigned : List (List JsonFloat)) : Prop :=
  assigned.length = count ∧
    (∀ values ∈ assigned, values.length = service.embeddingDimensions) ∧
    ∃ data, reply = .ok data ∧
      Answers floatOfInt service.embeddings.dimensions data assigned

/-- An answer of the provider that gives its texts no such vectors. -/
def Refused : Prog.Answered IndexingCall IndexingCall.Ret Exn → Prop
  | ⟨.createEmbeddings _ input _, reply⟩ =>
      ∀ assigned, ¬ Accepts floatOfInt service input.length reply assigned
  | ⟨.replaceIndex _ _, _⟩ => False

/-- The requests for some texts, batch by batch, with the vectors that they are answered
with. -/
inductive Embedded : List Text → IndexingLog → List (List JsonFloat) → Prop
  | nil : Embedded [] [] []
  | batch {text : Text} {rest : List Text} {log : IndexingLog}
      {assigned others : List (List JsonFloat)} {reply : Except Exn (List EmbeddingItem)}
      (accepted : Accepts floatOfInt service
        ((text :: rest).take service.embeddingBatchSize).length reply assigned)
      (later : Embedded ((text :: rest).drop service.embeddingBatchSize) log others) :
      Embedded (text :: rest)
        (⟨batchRequest service ((text :: rest).take service.embeddingBatchSize), reply⟩ ::
          log)
        (assigned ++ others)

/-- Nothing but requests to the provider, and one of the answers refused. -/
def Failed (log : IndexingLog) : Prop :=
  (∃ answer ∈ log, Refused floatOfInt service answer) ∧
    ∀ answer ∈ log, ∀ spec chunks, answer.request ≠ .replaceIndex spec chunks

/-- What `embed_documents` returns for a reply. -/
def received (count : Nat) (reply : Except Exn (List EmbeddingItem)) :
    Except Exn (List EmbeddingVector) :=
  match reply with
  | .ok data => service.embeddings.readVectors floatOfInt count data
  | .error _ => .error (openRouterApiError "OpenRouter embeddings request failed.")

variable {floatOfInt service} {count : Nat} {reply : Except Exn (List EmbeddingItem)}
  {vectors : List EmbeddingVector} {texts : List Text} {log : IndexingLog}

variable {batch : List Text} {result : Except Exn (List EmbeddingVector)}
  {assigned : List (List JsonFloat)}

theorem batch_pos {text : Text} {rest : List Text} :
    0 < ((text :: rest).take service.embeddingBatchSize).length := by
  have size := service.batchSize_pos
  rw [List.length_take, List.length_cons]
  omega

theorem embedDocuments_eq (nonempty : batch ≠ [])
    (visible : ∀ text ∈ batch, strip text ≠ []) :
    service.embeddings.embedDocuments floatOfInt batch =
      Prog.call (batchRequest service batch)
        fun reply => .done (received floatOfInt service batch.length reply) := by
  have checked : ¬ ((batch.map strip).isEmpty || (batch.map strip).any List.isEmpty) = true := by
    simp only [Bool.or_eq_true, List.isEmpty_iff, List.map_eq_nil_iff, List.any_eq_true,
      List.mem_map, not_or, not_exists, not_and]
    refine ⟨nonempty, ?_⟩
    rintro _ ⟨text, member, rfl⟩
    simpa using visible text member
  rw [OpenRouterEmbeddingsClient.embedDocuments, if_neg checked]
  simp only [List.length_map]
  change Prog.call (batchRequest service batch) _ = Prog.call (batchRequest service batch) _
  congr
  funext reply
  cases reply <;> rfl

theorem received_ok_iff (positive : 0 < count) :
    received floatOfInt service count reply = .ok vectors ↔
      ∃ assigned, assigned.length = count ∧ vectors = labelled 0 assigned ∧
        ∃ data, reply = .ok data ∧
          Answers floatOfInt service.embeddings.dimensions data assigned := by
  cases reply with
  | error error =>
      constructor
      · nofun
      · rintro ⟨_, _, _, _, same, _⟩
        cases same
  | ok data =>
      rw [received, readVectors_ok_iff positive]
      simp

theorem takes_embedDocuments (nonempty : batch ≠ [])
    (visible : ∀ text ∈ batch, strip text ≠ [])
    (takes : (service.embeddings.embedDocuments floatOfInt batch).Takes log result) :
    ∃ reply : Except Exn (List EmbeddingItem),
      log = [⟨batchRequest service batch, reply⟩] ∧
        result = received floatOfInt service batch.length reply := by
  rw [embedDocuments_eq nonempty visible, Prog.takes_call] at takes
  obtain ⟨reply, rest, rfl, takes⟩ := takes
  obtain ⟨rfl, rfl⟩ := Prog.takes_done.mp takes
  exact ⟨reply, rfl, rfl⟩

/-- A response that raises is refused. -/
theorem refused_of_received (nonempty : batch ≠ []) {error : Exn}
    (raised : received floatOfInt service batch.length reply = .error error) :
    Refused floatOfInt service ⟨batchRequest service batch, reply⟩ := by
  rintro assigned ⟨length, _, data, same, answers⟩
  rw [List.length_map] at length
  have read := (received_ok_iff (List.length_pos_iff.mpr nonempty)).mpr
    ⟨assigned, length, rfl, data, same, answers⟩
  rw [raised] at read
  cases read

theorem failed_of_refused
    (refused : Refused floatOfInt service ⟨batchRequest service batch, reply⟩) :
    Failed floatOfInt service [⟨batchRequest service batch, reply⟩] := by
  refine ⟨⟨_, .head _, refused⟩, ?_⟩
  intro answer member spec chunks
  rw [List.mem_singleton.mp member]
  nofun

theorem Failed.cons (failed : Failed floatOfInt service log) (batch : List Text)
    (reply : Except Exn (List EmbeddingItem)) :
    Failed floatOfInt service (⟨batchRequest service batch, reply⟩ :: log) := by
  obtain ⟨⟨answer, member, refused⟩, others⟩ := failed
  refine ⟨⟨answer, .tail _ member, refused⟩, ?_⟩
  intro answer member spec chunks
  rcases List.mem_cons.mp member with rfl | later
  · nofun
  · exact others answer later spec chunks

/-- A response gives its vectors in one way only. -/
theorem assigned_unique {assigned other : List (List JsonFloat)} (positive : 0 < count)
    (read : received floatOfInt service count reply = .ok (labelled 0 assigned))
    (accepts : Accepts floatOfInt service count reply other) : other = assigned := by
  obtain ⟨length, _, data, same, answers⟩ := accepts
  have again := (received_ok_iff positive).mpr ⟨other, length, rfl, data, same, answers⟩
  rw [read] at again
  have values := congrArg (List.map EmbeddingVector.values) (Except.ok.inj again)
  rw [values_labelled, values_labelled] at values
  exact values.symm

/-- A batch that is shorter than the batch size is the last. -/
theorem labelled_batch {text : Text} {rest : List Text} {start : Nat}
    {assigned others : List (List JsonFloat)}
    (length : assigned.length = ((text :: rest).take service.embeddingBatchSize).length)
    (later : Embedded floatOfInt service
      ((text :: rest).drop service.embeddingBatchSize) log others) :
    (labelled 0 assigned).map (KnowledgeIndexingService.shift start) ++
        labelled (start + service.embeddingBatchSize) others =
      labelled start (assigned ++ others) := by
  rw [shift_labelled, labelled_append, Nat.add_zero]
  rw [List.length_take] at length
  by_cases last : (text :: rest).length ≤ service.embeddingBatchSize
  · rw [List.drop_eq_nil_of_le last] at later
    cases later
    rfl
  · rw [length, Nat.min_eq_left (Nat.le_of_not_le last)]

/-- A run of the loop gives the texts the vectors of accepted answers, or it raises at an
answer that is refused. -/
theorem takes_embedFrom {start : Nat} (visible : ∀ text ∈ texts, strip text ≠ [])
    (takes : (service.embedFrom floatOfInt start texts).Takes log result) :
    (∃ assigned, Embedded floatOfInt service texts log assigned ∧
        result = .ok (labelled start assigned)) ∨
      ∃ error, result = .error error ∧ Failed floatOfInt service log := by
  induction length : texts.length using Nat.strongRecOn generalizing texts log start result with
  | ind length' induction =>
      cases texts with
      | nil =>
          rw [KnowledgeIndexingService.embedFrom] at takes
          obtain ⟨rfl, rfl⟩ := Prog.takes_done.mp takes
          exact .inl ⟨[], .nil, rfl⟩
      | cons text rest =>
          have size := service.batchSize_pos
          have nonempty := List.length_pos_iff.mp (@batch_pos service text rest)
          have visible' : ∀ other ∈ (text :: rest).take service.embeddingBatchSize,
              strip other ≠ [] :=
            fun other member => visible other (List.mem_of_mem_take member)
          rw [KnowledgeIndexingService.embedFrom, Prog.takes_bind] at takes
          rcases takes with ⟨error, rfl, takes⟩ | ⟨first, vectors, second, rfl, takes, then_⟩
          · obtain ⟨reply, rfl, raised⟩ := takes_embedDocuments nonempty visible' takes
            exact .inr ⟨error, rfl, failed_of_refused
              (refused_of_received nonempty raised.symm)⟩
          · obtain ⟨reply, rfl, returned⟩ := takes_embedDocuments nonempty visible' takes
            obtain ⟨assigned, count, rfl, data, rfl, answers⟩ :=
              (received_ok_iff batch_pos).mp returned.symm
            rw [if_neg (by simp [length_labelled, count])] at then_
            split at then_
            · rename_i vector wrong
              obtain ⟨rfl, rfl⟩ := Prog.takes_done.mp then_
              refine .inr ⟨_, rfl, failed_of_refused ?_⟩
              intro other accepts
              rw [List.length_map] at accepts
              have same := assigned_unique batch_pos returned.symm accepts
              subst same
              have right := accepts.2.1 vector.values
                (values_mem (List.mem_of_find?_eq_some wrong))
              simpa [right] using List.find?_some wrong
            · rename_i right
              rw [Prog.takes_bind] at then_
              have shorter : ((text :: rest).drop service.embeddingBatchSize).length <
                  length' := by
                rw [← length, List.length_drop, List.length_cons]
                omega
              have visible'' : ∀ other ∈ (text :: rest).drop service.embeddingBatchSize,
                  strip other ≠ [] :=
                fun other member => visible other (List.mem_of_mem_drop member)
              rcases then_ with ⟨error, rfl, further⟩ |
                ⟨middle, vectors, last, rfl, further, done⟩
              · rcases induction _ shorter visible'' further rfl with
                  ⟨_, _, same⟩ | ⟨raised, same, failed⟩
                · cases same
                · exact .inr ⟨raised, same, failed.cons _ _⟩
              · rcases induction _ shorter visible'' further rfl with
                  ⟨others, later, same⟩ | ⟨_, same, _⟩
                · cases same
                  obtain ⟨rfl, rfl⟩ := Prog.takes_done.mp done
                  refine .inl ⟨assigned ++ others, ?_, ?_⟩
                  · rw [List.append_nil]
                    refine .batch ⟨count, ?_, data, rfl, answers⟩ later
                    intro values member
                    rw [← values_labelled 0 assigned] at member
                    obtain ⟨vector, inside, rfl⟩ := List.mem_map.mp member
                    simpa using List.find?_eq_none.mp right vector inside
                  · rw [labelled_batch count later]
                · cases same

theorem embedded_length (embedded : Embedded floatOfInt service texts log assigned) :
    assigned.length = texts.length := by
  induction embedded with
  | nil => rfl
  | batch accepted later induction =>
      rw [List.length_append, accepted.1, induction, ← List.length_append,
        List.take_append_drop]

/-- The second sorting finds the vectors in place. -/
theorem takes_embed (visible : ∀ text ∈ texts, strip text ≠ [])
    (takes : (service.embed floatOfInt texts).Takes log result) :
    (∃ assigned, Embedded floatOfInt service texts log assigned ∧
        result = .ok (labelled 0 assigned)) ∨
      ∃ error, result = .error error ∧ Failed floatOfInt service log := by
  rw [KnowledgeIndexingService.embed, Prog.takes_bind] at takes
  rcases takes with ⟨error, rfl, takes⟩ | ⟨first, vectors, second, rfl, takes, then_⟩
  · rcases takes_embedFrom visible takes with ⟨_, _, same⟩ | refused
    · cases same
    · exact .inr refused
  · rcases takes_embedFrom visible takes with ⟨assigned, embedded, same⟩ | ⟨_, same, _⟩
    · cases same
      have inPlace := index_labelled 0 assigned
      rw [LabelledItems.sorted_of_inPlace inPlace] at then_
      dsimp only at then_
      rw [inPlace, embedded_length embedded, if_neg (not_not.mpr rfl)] at then_
      obtain ⟨rfl, rfl⟩ := Prog.takes_done.mp then_
      rw [List.append_nil]
      exact .inl ⟨assigned, embedded, rfl⟩
    · cases same

/-- Accepted answers carry the loop through. -/
theorem embedFrom_takes (embedded : Embedded floatOfInt service texts log assigned)
    (visible : ∀ text ∈ texts, strip text ≠ []) (start : Nat) :
    (service.embedFrom floatOfInt start texts).Takes log (.ok (labelled start assigned)) := by
  induction embedded generalizing start with
  | nil =>
      rw [KnowledgeIndexingService.embedFrom]
      exact .done _
  | @batch text rest log assigned others reply accepted later induction =>
      obtain ⟨count, right, data, same, answers⟩ := accepted
      have read := (received_ok_iff batch_pos).mpr
        ⟨assigned, count, rfl, data, same, answers⟩
      have fits : (labelled 0 assigned).find? (fun vector =>
          vector.values.length ≠ service.embeddingDimensions) = none := by
        rw [List.find?_eq_none]
        intro vector member
        simpa using right vector.values (values_mem member)
      rw [KnowledgeIndexingService.embedFrom, Prog.takes_bind]
      refine .inr ⟨[_], labelled 0 assigned, log, rfl, ?_, ?_⟩
      · rw [embedDocuments_eq (List.length_pos_iff.mp batch_pos)
          fun other member => visible other (List.mem_of_mem_take member), Prog.takes_call]
        exact ⟨reply, [], rfl, Prog.takes_done.mpr ⟨rfl, read.symm⟩⟩
      · rw [if_neg (by simp [length_labelled, count]), fits]
        refine Prog.takes_bind.mpr (.inr ⟨log, _, [], (List.append_nil log).symm,
          induction (fun other member => visible other (List.mem_of_mem_drop member)) _, ?_⟩)
        rw [labelled_batch count later]
        exact .done _

theorem no_replaceIndex_of_embedded
    (embedded : Embedded floatOfInt service texts log assigned) :
    ∀ answer ∈ log, ∀ spec chunks, answer.request ≠ .replaceIndex spec chunks := by
  induction embedded with
  | nil => nofun
  | batch _ _ induction =>
      intro answer member spec chunks
      rcases List.mem_cons.mp member with rfl | later
      · nofun
      · exact induction answer later spec chunks

end Runs

/-! ## What is stored -/

section Stored

variable (floatOfInt : Int → Option JsonFloat) (sha256 : Text → Text)
  (reprTexts : List String → String) (threePlaces : Confidence → String)

/-- The payloads of chunks with their vectors. -/
def stored (chunks : List LocatedChunk) (assigned : List (List JsonFloat)) :
    List KnowledgeChunkPayload :=
  (chunks.zip assigned).zipIdx.map fun ((chunk, values), ordinal) =>
    payload sha256 chunk ordinal values

/-- The provider answers a request with the vectors that a function assigns to its
texts. -/
def AssignedBy (service : KnowledgeIndexingService) (embedding : Text → List JsonFloat) :
    Prog.Answered IndexingCall IndexingCall.Ret Exn → Prop
  | ⟨.createEmbeddings _ input _, reply⟩ =>
      Accepts floatOfInt service input.length reply (input.map embedding)
  | ⟨.replaceIndex _ _, _⟩ => True

/-- The runs of `index_contract` on some chunks.  What is stored with the chunks are the
vectors that the answers give to their texts, whatever the batches; if a function assigns
them, each chunk gets the vector of its text.  A refused answer stores nothing. -/
structure StoresAssigned (service : KnowledgeIndexingService) (request : IndexRequest)
    (chunks : List LocatedChunk) (log : IndexingLog)
    (result : Except Exn KnowledgeIndexingResult) : Prop where
  vectors : ∀ spec payloads reply, ⟨.replaceIndex spec payloads, reply⟩ ∈ log →
    spec = service.spec request ∧
      ∃ requests assigned, log = requests ++ [⟨.replaceIndex spec payloads, reply⟩] ∧
        Embedded floatOfInt service (chunks.map fun chunk => chunk.text.toList) requests
          assigned ∧
        payloads = stored sha256 chunks assigned
  assigned : ∀ embedding : Text → List JsonFloat,
    (∀ answer ∈ log, AssignedBy floatOfInt service embedding answer) →
      ∃ requests, ∃ reply : Except Exn Unit,
        log = requests ++ [⟨.replaceIndex (service.spec request)
          (chunks.zipIdx.map fun (chunk, ordinal) =>
            payload sha256 chunk ordinal (embedding (strip chunk.text.toList))), reply⟩] ∧
          result = reply.map fun _ => service.result request chunks.length
  refused : ∀ answer ∈ log, Refused floatOfInt service answer →
    (∃ error, result = .error error) ∧
      ∀ answer ∈ log, ∀ spec payloads, answer.request ≠ .replaceIndex spec payloads

variable {floatOfInt sha256 reprTexts threePlaces} {service : KnowledgeIndexingService}
  {request : IndexRequest} {chunks : List LocatedChunk} {log : IndexingLog}

variable {assigned : List (List JsonFloat)} {texts : List Text}

/-- Every chunk finds its vector. -/
theorem payloads_labelled (length : assigned.length = chunks.length) :
    KnowledgeIndexingService.payloads sha256 (labelled 0 assigned) chunks =
      .ok (stored sha256 chunks assigned) := by
  have from_ (before : List EmbeddingVector) :
      (chunks.zipIdx before.length).mapM (fun (chunk, ordinal) =>
        match (before ++ labelled before.length assigned)[ordinal]? with
        | some vector => .ok (payload sha256 chunk ordinal vector.values)
        | none => .error ⟨.otherError, "tuple index out of range"⟩) =
      (.ok (((chunks.zip assigned).zipIdx before.length).map
        fun ((chunk, values), ordinal) => payload sha256 chunk ordinal values) :
        Except Exn (List KnowledgeChunkPayload)) := by
    induction chunks generalizing assigned before with
    | nil => rfl
    | cons chunk rest induction =>
        cases assigned with
        | nil => cases length
        | cons values others =>
            have later := induction (Nat.succ.inj length) (before ++ [⟨before.length, values⟩])
            rw [List.length_append, List.length_singleton, List.append_assoc,
              List.singleton_append] at later
            rw [List.zipIdx_cons, List.mapM_cons, labelled, later]
            simp [pure, Except.pure, bind, Except.bind]
  exact from_ []

theorem stored_map (embedding : Text → List JsonFloat) (chunks : List LocatedChunk) :
    stored sha256 chunks (chunks.map fun chunk => embedding (strip chunk.text.toList)) =
      chunks.zipIdx.map fun (chunk, ordinal) =>
        payload sha256 chunk ordinal (embedding (strip chunk.text.toList)) := by
  have paired : chunks.zip (chunks.map fun chunk => embedding (strip chunk.text.toList)) =
      chunks.map fun chunk => (chunk, embedding (strip chunk.text.toList)) := by
    induction chunks with
    | nil => rfl
    | cons chunk rest induction => simp [induction]
  rw [stored, paired, List.zipIdx_map, List.map_map]
  rfl

theorem accepts_unique {count : Nat} {reply : Except Exn (List EmbeddingItem)}
    {first second : List (List JsonFloat)} (positive : 0 < count)
    (accepts : Accepts floatOfInt service count reply first)
    (accepts' : Accepts floatOfInt service count reply second) : first = second := by
  obtain ⟨length, _, data, same, answers⟩ := accepts
  have read := (received_ok_iff positive).mpr ⟨first, length, rfl, data, same, answers⟩
  exact (assigned_unique positive read accepts').symm

/-- Answers that a function assigns give every text its vector. -/
theorem assigned_of_embedded {embedding : Text → List JsonFloat}
    (embedded : Embedded floatOfInt service texts log assigned)
    (answers : ∀ answer ∈ log, AssignedBy floatOfInt service embedding answer) :
    assigned = texts.map fun text => embedding (strip text) := by
  induction embedded with
  | nil => rfl
  | @batch text rest log assigned others reply accepted later induction =>
      have here : Accepts floatOfInt service
          (((text :: rest).take service.embeddingBatchSize).map strip).length reply
          ((((text :: rest).take service.embeddingBatchSize).map strip).map embedding) :=
        answers _ (.head _)
      rw [List.length_map, List.map_map] at here
      rw [accepts_unique batch_pos accepted here,
        induction fun answer member => answers answer (.tail _ member)]
      conv_rhs =>
        rw [← List.take_append_drop service.embeddingBatchSize (text :: rest), List.map_append]
      rfl

/-- Accepted answers give the texts their vectors in one way only. -/
theorem embedded_unique {assigned assigned' : List (List JsonFloat)}
    (embedded : Embedded floatOfInt service texts log assigned)
    (embedded' : Embedded floatOfInt service texts log assigned') : assigned = assigned' := by
  induction embedded generalizing assigned' with
  | nil =>
      cases embedded'
      rfl
  | batch accepted later induction =>
      cases embedded' with
      | batch accepted' later' =>
          rw [induction later', accepts_unique batch_pos accepted accepted']

/-- What is stored with the texts. -/
theorem stored_texts :
    (stored sha256 chunks assigned).map (fun chunk => (chunk.content.toList, chunk.embedding)) =
      (chunks.map fun chunk => chunk.text.toList).zip assigned := by
  rw [stored, List.map_map, List.zip_map_left]
  conv_rhs => rw [← List.zipIdx_map_fst 0 (chunks.zip assigned), List.map_map]
  rfl

theorem length_stored (length : assigned.length = chunks.length) :
    (stored sha256 chunks assigned).length = chunks.length := by
  rw [stored, List.length_map, List.length_zipIdx, List.length_zip, length, Nat.min_self]

theorem texts_visible
    (cut : service.chunks sha256 reprTexts threePlaces request = .ok chunks) :
    ∀ text ∈ chunks.map fun chunk => chunk.text.toList, strip text ≠ [] := by
  intro text member
  obtain ⟨chunk, inside, rfl⟩ := List.mem_map.mp member
  exact visible_of_chunks cut chunk inside

theorem not_refused_of_assignedBy {embedding : Text → List JsonFloat}
    {answer : Prog.Answered IndexingCall IndexingCall.Ret Exn}
    (assigned : AssignedBy floatOfInt service embedding answer) :
    ¬ Refused floatOfInt service answer := by
  obtain ⟨request, reply⟩ := answer
  cases request with
  | createEmbeddings model input dimensions => exact fun refused => refused _ assigned
  | replaceIndex spec payloads => exact fun refused => refused

/-- An accepted answer is not refused. -/
theorem not_refused_of_embedded
    (embedded : Embedded floatOfInt service texts log assigned) :
    ∀ answer ∈ log, ¬ Refused floatOfInt service answer := by
  induction embedded with
  | nil => nofun
  | @batch _ _ _ assigned _ _ accepted _ induction =>
      intro answer member
      rcases List.mem_cons.mp member with rfl | later
      · intro refused
        refine refused assigned ?_
        rw [List.length_map]
        exact accepted
      · exact induction answer later

theorem takes_replaceIndex {payloads : List KnowledgeChunkPayload}
    {result : Except Exn Unit} (takes : (service.replaceIndex request payloads).Takes log result) :
    log = [⟨.replaceIndex (service.spec request) payloads, result⟩] :=
  Prog.takes_perform.mp takes

theorem storesAssigned_of_failed {result : Except Exn KnowledgeIndexingResult}
    (failed : Failed floatOfInt service log) (raised : ∃ error, result = .error error) :
    StoresAssigned floatOfInt sha256 service request chunks log result := by
  obtain ⟨⟨answer, member, refused⟩, requests⟩ := failed
  refine ⟨?_, ?_, ?_⟩
  · intro spec payloads reply stores
    exact absurd rfl (requests _ stores spec payloads)
  · intro embedding answers
    exact absurd refused (not_refused_of_assignedBy (answers answer member))
  · exact fun _ _ _ => ⟨raised, requests⟩

theorem storesAssigned_of_embedded {requests : IndexingLog}
    {reply : Except Exn Unit}
    (embedded : Embedded floatOfInt service (chunks.map fun chunk => chunk.text.toList)
      requests assigned) :
    StoresAssigned floatOfInt sha256 service request chunks
      (requests ++ [⟨.replaceIndex (service.spec request) (stored sha256 chunks assigned),
        reply⟩])
      (reply.map fun _ => service.result request chunks.length) := by
  have none_ := no_replaceIndex_of_embedded embedded
  refine ⟨?_, ?_, ?_⟩
  · intro spec payloads reply' stores
    rcases List.mem_append.mp stores with early | last
    · exact absurd rfl (none_ _ early spec payloads)
    · cases List.mem_singleton.mp last
      exact ⟨rfl, requests, assigned, rfl, embedded, rfl⟩
  · intro embedding answers
    have same := assigned_of_embedded embedded fun answer member =>
      answers answer (List.mem_append_left _ member)
    rw [List.map_map] at same
    refine ⟨requests, reply, ?_, rfl⟩
    rw [same]
    exact congrArg (fun payloads => requests ++
      [(⟨.replaceIndex (service.spec request) payloads, reply⟩ :
        Prog.Answered IndexingCall IndexingCall.Ret Exn)])
      (stored_map embedding chunks)
  · intro answer member refused
    rcases List.mem_append.mp member with early | last
    · exact absurd refused (not_refused_of_embedded embedded answer early)
    · cases List.mem_singleton.mp last
      exact refused.elim

/-- Accepted answers carry the service to its backend. -/
theorem indexContract_takes {requests : IndexingLog}
    (cut : service.chunks sha256 reprTexts threePlaces request = .ok chunks)
    (embedded : Embedded floatOfInt service (chunks.map fun chunk => chunk.text.toList)
      requests assigned) (reply : Except Exn Unit) :
    ∃ payloads, (service.indexContract floatOfInt sha256 reprTexts threePlaces request).Takes
      (requests ++ [⟨.replaceIndex (service.spec request) payloads, reply⟩])
      (reply.map fun _ => service.result request chunks.length) := by
  have length := embedded_length embedded
  have inPlace := index_labelled 0 assigned
  have embeds : (service.embed floatOfInt (chunks.map fun chunk => chunk.text.toList)).Takes
      requests (.ok (labelled 0 assigned)) := by
    rw [KnowledgeIndexingService.embed, Prog.takes_bind]
    refine .inr ⟨requests, _, [], (List.append_nil _).symm,
      embedFrom_takes embedded (texts_visible cut) 0, ?_⟩
    rw [LabelledItems.sorted_of_inPlace inPlace]
    dsimp only
    rw [inPlace, length, if_neg (not_not.mpr rfl)]
    exact .done _
  rw [List.length_map] at length
  refine ⟨stored sha256 chunks assigned, ?_⟩
  rw [KnowledgeIndexingService.indexContract, cut]
  refine Prog.takes_bind.mpr (.inr ⟨[], chunks, _, rfl, .done _,
    Prog.takes_bind.mpr (.inr ⟨requests, _, _, rfl, embeds, ?_⟩)⟩)
  rw [payloads_labelled length]
  refine Prog.takes_bind.mpr (.inr ⟨[], _, _, rfl, .done _, Prog.takes_bind.mpr ?_⟩)
  rw [length_stored length]
  cases reply with
  | error error => exact .inl ⟨error, rfl, Prog.takes_perform.mpr rfl⟩
  | ok value => exact .inr ⟨_, value, [], rfl, Prog.takes_perform.mpr rfl, .done _⟩

variable (floatOfInt sha256 reprTexts threePlaces service request)

/-- Whatever the provider answers: the vectors that are stored with the chunks are those of
their texts, or nothing is stored. -/
def StoresVectorsOfTexts : Prop :=
  ∀ log result,
    (service.indexContract floatOfInt sha256 reprTexts threePlaces request).Takes log result →
      match service.chunks sha256 reprTexts threePlaces request with
      | .ok chunks => StoresAssigned floatOfInt sha256 service request chunks log result
      | .error error => log = [] ∧ result = .error error

end Stored

/-- Batched embedding stores what unbatched embedding would. -/
theorem batched_embedding (floatOfInt : Int → Option JsonFloat) (sha256 : Text → Text)
    (reprTexts : List String → String) (threePlaces : Confidence → String)
    (service : KnowledgeIndexingService) (request : IndexRequest) :
    StoresVectorsOfTexts floatOfInt sha256 reprTexts threePlaces service request := by
  intro log result takes
  cases cut : service.chunks sha256 reprTexts threePlaces request with
  | error error =>
      rw [KnowledgeIndexingService.indexContract, cut] at takes
      exact Prog.takes_done.mp takes
  | ok chunks =>
      rw [KnowledgeIndexingService.indexContract, cut] at takes
      change (service.embed floatOfInt (chunks.map fun chunk => chunk.text.toList) >>=
        _).Takes log result at takes
      have visible := texts_visible cut
      rw [Prog.takes_bind] at takes
      rcases takes with ⟨error, rfl, takes⟩ | ⟨first, vectors, second, rfl, takes, then_⟩
      · rcases takes_embed visible takes with ⟨_, _, same⟩ | ⟨_, _, failed⟩
        · cases same
        · exact storesAssigned_of_failed failed ⟨error, rfl⟩
      · rcases takes_embed visible takes with ⟨assigned, embedded, same⟩ | ⟨_, same, _⟩
        · cases same
          have length := embedded_length embedded
          rw [List.length_map] at length
          rw [payloads_labelled length] at then_
          change (service.replaceIndex request (stored sha256 chunks assigned) >>= fun _ =>
            pure (service.result request (stored sha256 chunks assigned).length)).Takes
              second result at then_
          rw [length_stored length, Prog.takes_bind] at then_
          rcases then_ with ⟨error, rfl, failed⟩ | ⟨last, value, rest, rfl, done, then_⟩
          · rw [takes_replaceIndex failed]
            exact storesAssigned_of_embedded embedded
          · obtain ⟨rfl, rfl⟩ := Prog.takes_done.mp then_
            rw [takes_replaceIndex done]
            exact storesAssigned_of_embedded embedded
        · cases same

/-! ## Two batches -/

/-- Two texts a request. -/
def pairing : KnowledgeIndexingService where
  embeddings := { modelId := "embedder", dimensions := 1, dimensions_pos := Nat.one_pos }
  embeddingModel := "embedder"
  rerankerModel := "reranker"
  embeddingDimensions := 1
  dimensions_pos := Nat.one_pos
  embeddingBatchSize := 2

/-- A review of a document without pages: an overview and two parties. -/
def partiesRequest : IndexRequest where
  workspaceId := "acme"
  contractId := "lease"
  contractVersionId := "first"
  parsedDocument :=
    { documentId := "document", sha256 := "", mimeType := "application/pdf", pageCount := 0
      pages := [], parserName := "pdf", parserVersion := "1" }
  review := .ok
    { contractId := "lease", contractType := "Lease", recommendedNextAction := "Sign"
      parties := [{ name := "Ann" }, { name := "Bea", role := some "Tenant" }] }

def partiesTexts : List Text :=
  ["Contract type: Lease\nRecommended next action: Sign".toList,
    "Party: Ann\nRole: Not specified".toList, "Party: Bea\nRole: Tenant".toList]

/-- The second text of the first batch is answered first. -/
def swappedAnswers : IndexingLog :=
  [⟨batchRequest pairing (partiesTexts.take 2), .ok
      ([⟨.int 1, .list [.int 20]⟩, ⟨.int 0, .list [.int 10]⟩] : List EmbeddingItem)⟩,
    ⟨batchRequest pairing (partiesTexts.drop 2), .ok
      ([⟨.int 0, .list [.int 30]⟩] : List EmbeddingItem)⟩]

/-- An `int` that is not too large. -/
def smallFloat (value : Int) : Option JsonFloat :=
  some (.finite value)

theorem swapped_embedded : Embedded smallFloat pairing partiesTexts swappedAnswers
    ([[.finite 10], [.finite 20]] ++ ([[.finite 30]] ++ [])) := by
  have holds (position : Nat) (number : Int) : Holds smallFloat
      ⟨.int position, .list [.int number]⟩ ⟨position, [.finite number]⟩ :=
    ⟨rfl, List.cons_ne_nil _ _, _, rfl, .cons rfl .nil⟩
  refine .batch ⟨rfl, by simp [pairing], _, rfl, by simp [pairing], _, .swap _ _ _, ?_⟩
    (.batch ⟨rfl, by simp [pairing], _, rfl, by simp [pairing], _, .refl _, ?_⟩ .nil)
  · exact .cons (holds 0 10) (.cons (holds 1 20) .nil)
  · exact .cons (holds 0 30) .nil

theorem batched_embedding_sample : ∃ payloads,
    (pairing.indexContract smallFloat id (fun _ => "") (fun _ => "") partiesRequest).Takes
        (swappedAnswers ++ [⟨.replaceIndex (pairing.spec partiesRequest) payloads, .ok ()⟩])
        (.ok (pairing.result partiesRequest 3)) ∧
      payloads.map (fun chunk => (chunk.content.toList, chunk.embedding)) =
        partiesTexts.zip [[.finite 10], [.finite 20], [.finite 30]] := by
  obtain ⟨chunks, cut, texts, count⟩ : ∃ chunks,
      pairing.chunks id (fun _ => "") (fun _ => "") partiesRequest = .ok chunks ∧
        chunks.map (fun chunk => chunk.text.toList) = partiesTexts ∧ chunks.length = 3 :=
    ⟨_, rfl, rfl, rfl⟩
  obtain ⟨payloads, run⟩ := indexContract_takes cut (texts ▸ swapped_embedded) (.ok ())
  rw [count] at run
  have means := batched_embedding smallFloat id (fun _ => "") (fun _ => "") pairing
    partiesRequest _ _ run
  rw [cut] at means
  obtain ⟨-, requests, assigned, same, embedded, stores⟩ := means.vectors _ payloads _
    (List.mem_append_right _ (List.mem_singleton_self _))
  rw [← List.append_cancel_right same, texts] at embedded
  rw [embedded_unique embedded swapped_embedded] at stores
  exact ⟨payloads, run, stores ▸ texts ▸ stored_texts⟩

end ContractIndexing

end ContractMate
