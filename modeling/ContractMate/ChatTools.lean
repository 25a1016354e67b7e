import ContractMate.HybridSearch
import ContractMate.ScopedReads

/-!
# Chat tools

The read-only tools of a conversation, over the database: the search of contract text,
the summaries and the timelines.  What they return depends on the rows of the
conversation's workspace and, if it has a contract scope, of that contract only.
-/

namespace ContractMate

namespace ChatTools

open ChatEvidence HybridSearch KnowledgeBase PythonText

/-! ## Retrieval -/

/-- `RerankResult`. -/
structure RerankResult (Score : Type) where
  index : Int
  relevanceScore : Score
deriving DecidableEq, Repr

/-- The providers and the codecs; each is a function of its input. -/
structure Providers (Score Json : Type) where
  scores : SearchScores Score
  embedDocument : Text → Except Exn (List Score)
  rerank : Text → List Text → Int → Except Exn (List (RerankResult Score))
  loads : String → Except Exn Json
  shownTime : Int → String

section Retrieval

variable {Score Json : Type} [LinearOrder Score] (providers : Providers Score Json)

/-- A string as a metadata value. -/
def stringValue (value : String) : MetadataValue where
  truthy := value ≠ ""
  shown := value

/-- `_retrieved_chunk`. -/
def retrievedChunk (rerankScore : Option Score) (hit : SearchHit Score) :
    RetrievedChunk Score where
  chunk :=
    { id := hit.chunk.id
      documentId := ((hit.chunk.metadata.get "document_id").map MetadataValue.shown).getD
        hit.chunk.contractVersionId
      contractId := hit.chunk.contractId
      pageNumber := hit.chunk.pageStart.or hit.chunk.pageEnd
      text := String.ofList hit.chunk.content
      metadata := hit.chunk.metadata ++
        [("contract_version_id", stringValue hit.chunk.contractVersionId),
          ("source_type", stringValue
            ((hit.chunk.metadata.shown? "source").getD "knowledge_chunk"))] }
  rrfScore := hit.fusedScore
  rerankScore := rerankScore
  sources :=
    let named := [("lexical", hit.lexicalScore), ("vector", hit.semanticScore)].filterMap
      fun source => if providers.scores.zero < source.2 then some source.1 else none
    if named = [] then ["vector"] else named

/-- `items[index]`. -/
def itemAt {Item : Type} (items : List Item) (index : Int) : Except Exn Item :=
  let position := if index < 0 then index + items.length else index
  match if position < 0 then none else items[position.toNat]? with
  | none => .error ⟨.otherError, "list index out of range"⟩
  | some item => .ok item

/-- `DatabaseHybridRetriever.retrieve`. -/
def retrieve (sqlite : Bool) (database : Database Score) (query : RetrievalQuery) :
    Except Exn (List (RetrievedChunk Score)) := do
  let vector ← providers.embedDocument query.text
  let hits ← hybridSearch providers.scores sqlite database
    { workspaceId := query.workspaceId
      queryText := query.text
      queryEmbedding := vector
      contractId := query.contractId
      limit := query.candidateLimit
      candidatePool := max query.candidateLimit 60 }
  if hits = [] then .ok []
  else do
    let reranked ← providers.rerank query.text (hits.map fun hit => hit.chunk.content)
      (min query.limit hits.length)
    if reranked = [] then
      .ok ((hits.take query.limit.toNat).map (retrievedChunk providers none))
    else
      reranked.mapM fun result => do
        let hit ← itemAt hits result.index
        .ok (retrievedChunk providers (some result.relevanceScore) hit)

end Retrieval

/-! ## Summaries and timelines -/

structure ContractSummary (Json : Type) where
  contractId : String
  title : String
  status : String
  createdAt : String
  updatedAt : String
  review : Option Json
deriving DecidableEq, Repr

structure TimelineEvent (Json : Type) where
  eventType : String
  actorType : String
  actorId : Option String
  metadata : Json
  createdAt : String
deriving DecidableEq, Repr

section Reader

variable {Score Json : Type} (providers : Providers Score Json) (database : Database Score)

/-- The row of `contract_reviews` that the summary joins with a contract. -/
def currentReview (contract : KnowledgeBase.ContractRow) : Option ReviewRow :=
  (contract.currentVersionId.bind database.versions.find?).bind fun version =>
    database.reviews.find? version.id

/-- `DatabaseContractReader.get_contract_summary`. -/
def readContractSummary (workspaceId contractId : String) :
    Except Exn (Option (ContractSummary Json)) :=
  match database.contracts.rows.find? fun row =>
      row.workspaceId = workspaceId && row.id = contractId with
  | none => .ok none
  | some contract => do
      let review ← (currentReview database contract).mapM fun row =>
        providers.loads row.reviewJson
      .ok (some
        { contractId := contract.id
          title := (contract.title.filter fun title => title ≠ "").getD "Untitled contract"
          status := contract.status
          createdAt := providers.shownTime contract.createdAt
          updatedAt := providers.shownTime contract.updatedAt
          review })

/-- The rows of a contract's timeline, the latest first. -/
def timelineRows (workspaceId contractId : String) : List KnowledgeBase.AuditEventRow :=
  ((database.auditEvents.select fun row =>
    row.workspaceId = workspaceId && row.contractId = some contractId).insertionSort
      fun first second => second.createdAt ≤ first.createdAt).take 100

/-- `DatabaseContractReader.get_contract_timeline`. -/
def readContractTimeline (workspaceId contractId : String) :
    Except Exn (List (TimelineEvent Json)) :=
  (timelineRows database workspaceId contractId).mapM fun row => do
    let metadata ← providers.loads row.metadataJson
    .ok
      { eventType := row.eventType
        actorType := row.actorType
        actorId := row.actorId
        metadata
        createdAt := providers.shownTime row.createdAt }

end Reader

/-! ## The tools -/

/-- A call of a tool by the model. -/
inductive ToolCall where
  | searchContractContext (query : Text) (limit : Int)
  | getContractSummary (contractId : String)
  | getSelectedContractSummary
  | getContractTimeline (contractId : String)
  | getSelectedContractTimeline
deriving DecidableEq, Repr

inductive ToolResult (Score Json : Type) where
  | evidence (items : List (EvidenceItem Score))
  | summary (read : Option (ContractSummary Json))
  | timeline (events : List (TimelineEvent Json))
deriving DecidableEq, Repr

section Tools

variable {Score Json : Type} [LinearOrder Score] (providers : Providers Score Json)
  (sqlite : Bool) (database : Database Score) (workspaceId : String)
  (contractId : Option String)

/-- `get_contract_summary`. -/
def getContractSummary (asked : String) : Except Exn (Option (ContractSummary Json)) :=
  if contractId.any fun selected => asked ≠ selected then .ok none
  else readContractSummary providers database workspaceId asked

/-- `get_selected_contract_summary`. -/
def getSelectedContractSummary : Except Exn (Option (ContractSummary Json)) :=
  match contractId with
  | none => .ok none
  | some selected => readContractSummary providers database workspaceId selected

/-- `get_contract_timeline`. -/
def getContractTimeline (asked : String) : Except Exn (List (TimelineEvent Json)) :=
  if contractId.any fun selected => asked ≠ selected then .ok []
  else readContractTimeline providers database workspaceId asked

/-- `get_selected_contract_timeline`. -/
def getSelectedContractTimeline : Except Exn (List (TimelineEvent Json)) :=
  match contractId with
  | none => .ok []
  | some selected => readContractTimeline providers database workspaceId selected

/-- A method of `_ScopedReadOnlyTools`, with the registry of the run. -/
def ToolCall.perform (call : ToolCall) (registry : RunEvidenceRegistry Score) :
    Except Exn (ToolResult Score Json) × RunEvidenceRegistry Score :=
  match call with
  | searchContractContext query limit =>
      let searched := ChatEvidence.searchContractContext
        (retrieve providers sqlite database) workspaceId contractId query limit registry
      (searched.1.map ToolResult.evidence, searched.2)
  | getContractSummary asked =>
      ((ChatTools.getContractSummary providers database workspaceId contractId asked).map
        ToolResult.summary, registry)
  | getSelectedContractSummary =>
      ((ChatTools.getSelectedContractSummary providers database workspaceId contractId).map
        ToolResult.summary, registry)
  | getContractTimeline asked =>
      ((ChatTools.getContractTimeline providers database workspaceId contractId asked).map
        ToolResult.timeline, registry)
  | getSelectedContractTimeline =>
      ((ChatTools.getSelectedContractTimeline providers database workspaceId contractId).map
        ToolResult.timeline, registry)

/-- What the calls of a run return, one after the other. -/
def performAll : List ToolCall → RunEvidenceRegistry Score →
    List (Except Exn (ToolResult Score Json))
  | [], _ => []
  | call :: rest, registry =>
      let performed := call.perform providers sqlite database workspaceId contractId registry
      performed.1 :: performAll rest performed.2

end Tools

end ChatTools

end ContractMate
