import ContractMate.ChatEvidence
import ContractMate.KnowledgeWorker
import ContractMate.RunHistory

/-!
# The knowledge base

The tables that the chat tools read, and the transactions on them: contracts come and
go, their versions are reviewed and indexed, and every index row belongs to one version,
embedding model and chunking version.
-/

namespace ContractMate

namespace KnowledgeBase

open PythonText RunHistory

open ChatEvidence (Metadata)

/-! ## Tables -/

/-- `contracts`. -/
structure ContractRow where
  id : String
  workspaceId : String
  title : Option String
  status : String
  currentVersionId : Option String
  createdAt : Int
  updatedAt : Int
deriving DecidableEq, Repr

/-- `contract_versions`. -/
structure VersionRow where
  id : String
  contractId : String
deriving DecidableEq, Repr

/-- `contract_reviews`. -/
structure ReviewRow where
  contractVersionId : String
  reviewJson : String
deriving DecidableEq, Repr

/-- `knowledge_indexes`. -/
structure IndexRow where
  id : String
  workspaceId : String
  contractId : String
  contractVersionId : String
  embeddingProvider : String
  embeddingModel : String
  rerankerProvider : String
  rerankerModel : String
  chunkingVersion : String
  status : IndexStatus := .pending
  chunkCount : Nat := 0
  errorMessage : Option String := none
deriving DecidableEq, Repr

/-- `knowledge_chunks`. -/
structure ChunkRow (Score : Type) where
  id : String
  knowledgeIndexId : String
  workspaceId : String
  contractId : String
  contractVersionId : String
  ordinal : Int
  content : Text
  contentSha256 : String
  pageStart : Option Int
  pageEnd : Option Int
  tokenCount : Option Int
  metadata : Metadata
  embedding : List Score
deriving DecidableEq, Repr

/-- `audit_events`. -/
structure AuditEventRow where
  id : String
  workspaceId : String
  contractId : Option String
  eventType : String
  actorType : String
  actorId : Option String
  metadataJson : String
  createdAt : Int
deriving DecidableEq, Repr

structure Database (Score : Type) where
  contracts : RowTable ContractRow.id := .empty
  versions : RowTable VersionRow.id := .empty
  reviews : RowTable ReviewRow.contractVersionId := .empty
  indexes : RowTable IndexRow.id := .empty
  chunks : RowTable (@ChunkRow.id Score) := .empty
  auditEvents : RowTable AuditEventRow.id := .empty

/-! ## The repository -/

/-- The arguments of `create_or_get_index`. -/
structure IndexSpec where
  workspaceId : String
  contractId : String
  contractVersionId : String
  embeddingProvider : String
  embeddingModel : String
  rerankerProvider : String
  rerankerModel : String
  chunkingVersion : String
deriving DecidableEq, Repr

/-- The unique key of the index rows. -/
abbrev IndexSpec.key (spec : IndexSpec) : String × String × String × String :=
  (spec.workspaceId, spec.contractVersionId, spec.embeddingModel, spec.chunkingVersion)

abbrev IndexRow.key (row : IndexRow) : String × String × String × String :=
  (row.workspaceId, row.contractVersionId, row.embeddingModel, row.chunkingVersion)

/-- `KnowledgeChunkInput`. -/
structure ChunkInput (Score : Type) where
  ordinal : Int
  content : Text
  embedding : List Score
  pageStart : Option Int := none
  pageEnd : Option Int := none
  tokenCount : Option Int := none
  metadata : Metadata := []
deriving DecidableEq, Repr

/-- The tests on numbers and texts that the repository makes of what it stores. -/
structure ChunkTests (Score : Type) where
  isFinite : Score → Bool
  sha256 : Text → String

def embeddingDimensions : Nat := 1024

section Repository

variable {Score : Type} (tests : ChunkTests Score)

/-- `_validate_embedding`. -/
def validateEmbedding (embedding : List Score) : Except Exn (List Score) :=
  if embedding.length ≠ embeddingDimensions then
    .error (Exn.valueError "Embedding must contain exactly 1024 dimensions")
  else if !embedding.all tests.isFinite then
    .error (Exn.valueError "Embedding values must be finite")
  else .ok embedding

/-- `_prepare_chunk`, for an index row and a drawn identifier. -/
def prepareChunk (index : IndexRow) (drawn : String) (chunk : ChunkInput Score) :
    Except Exn (ChunkRow Score) :=
  let content := strip chunk.content
  if chunk.ordinal < 0 then
    .error (Exn.valueError "Chunk ordinal cannot be negative")
  else if content = [] then .error (Exn.valueError "Chunk content is required")
  else if chunk.pageStart.any fun page => page < 1 then
    .error (Exn.valueError "page_start must be positive")
  else if chunk.pageEnd.any fun page => page < 1 then
    .error (Exn.valueError "page_end must be positive")
  else if chunk.pageStart.any fun start => chunk.pageEnd.any fun last => last < start then
    .error (Exn.valueError "page_end cannot precede page_start")
  else if chunk.tokenCount.any fun count => count < 0 then
    .error (Exn.valueError "token_count cannot be negative")
  else do
    let embedding ← validateEmbedding tests chunk.embedding
    .ok
      { id := drawn, knowledgeIndexId := index.id, workspaceId := index.workspaceId
        contractId := index.contractId, contractVersionId := index.contractVersionId
        ordinal := chunk.ordinal, content, contentSha256 := tests.sha256 content
        pageStart := chunk.pageStart, pageEnd := chunk.pageEnd
        tokenCount := chunk.tokenCount, metadata := chunk.metadata, embedding }

variable (database : Database Score)

/-- The `INSERT … DO NOTHING` of `create_or_get_index`. -/
def insertIndex (drawn : String) (spec : IndexSpec) : Database Score :=
  if database.indexes.rows.any fun row => row.key = spec.key then database
  else
    { database with
      indexes := database.indexes.insertIgnore
        { id := drawn, workspaceId := spec.workspaceId, contractId := spec.contractId
          contractVersionId := spec.contractVersionId
          embeddingProvider := spec.embeddingProvider
          embeddingModel := spec.embeddingModel
          rerankerProvider := spec.rerankerProvider, rerankerModel := spec.rerankerModel
          chunkingVersion := spec.chunkingVersion } }

/-- `get_index_for_version`. -/
def getIndexForVersion (spec : IndexSpec) : Option IndexRow :=
  database.indexes.rows.find? fun row => row.key = spec.key

/-- `get_index`. -/
def getIndex (workspaceId indexId : String) : Option IndexRow :=
  (database.indexes.find? indexId).filter fun row => row.workspaceId = workspaceId

/-- The update that a retry of a failed index makes. -/
def updateProvenance (spec : IndexSpec) (indexId : String) : Database Score :=
  { database with
    indexes := database.indexes.updateWhere
      (fun row => row.workspaceId = spec.workspaceId && row.id = indexId &&
        row.status = .failed)
      ⟨fun row =>
        { row with
          embeddingProvider := spec.embeddingProvider
          rerankerProvider := spec.rerankerProvider
          rerankerModel := spec.rerankerModel
          errorMessage := none }, fun _ => rfl⟩ }

/-- `_require_contract_version`. -/
def requireContractVersion (workspaceId contractId contractVersionId : String) :
    Except Exn Unit :=
  if database.contracts.rows.any (fun row =>
        row.workspaceId = workspaceId && row.id = contractId) &&
      database.versions.rows.any (fun row =>
        row.contractId = contractId && row.id = contractVersionId) then
    .ok ()
  else .error ⟨.otherError, "'Contract version not found in workspace'"⟩

/-- `create_or_get_index`. -/
def createOrGetIndex (drawn : String) (spec : IndexSpec) :
    Except Exn IndexRow × Database Score :=
  match requireContractVersion database spec.workspaceId spec.contractId
      spec.contractVersionId with
  | .error raised => (.error raised, database)
  | .ok _ =>
      let inserted := insertIndex database drawn spec
      match getIndexForVersion inserted spec with
      | none => (.error (Exn.runtimeError "Knowledge index could not be created"), inserted)
      | some index =>
          if index.status = .failed then
            let updated := updateProvenance inserted spec index.id
            match getIndexForVersion updated spec with
            | none =>
                (.error (Exn.runtimeError
                  "Knowledge index disappeared while updating provider provenance"), updated)
            | some index => (.ok index, updated)
          else (.ok index, inserted)

/-- `_set_status`. -/
def setStatus (workspaceId indexId : String) (status : IndexStatus)
    (errorMessage : Option String) : Database Score :=
  { database with
    indexes := database.indexes.updateWhere
      (fun row => row.workspaceId = workspaceId && row.id = indexId)
      ⟨fun row => { row with status, errorMessage }, fun _ => rfl⟩ }

def markIndexing (workspaceId indexId : String) : Database Score :=
  setStatus database workspaceId indexId .indexing none

def markReady (workspaceId indexId : String) : Database Score :=
  setStatus database workspaceId indexId .ready none

def markFailed (workspaceId indexId : String) (errorMessage : String) : Database Score :=
  setStatus database workspaceId indexId .failed
    (some (String.ofList (errorMessage.toList.take 4000)))

/-- The insert of one prepared chunk, refused by the primary key and the two unique
constraints. -/
def insertChunk (row : ChunkRow Score) : Except Exn (Database Score) :=
  if database.chunks.rows.any fun other =>
      other.knowledgeIndexId = row.knowledgeIndexId &&
        (other.ordinal = row.ordinal || other.contentSha256 = row.contentSha256) then
    .error (Exn.uniqueViolation "knowledge_chunks_knowledge_index_id_key")
  else
    match database.chunks.insert? row with
    | none => .error (Exn.uniqueViolation "knowledge_chunks_pkey")
    | some chunks => .ok { database with chunks }

/-- `replace_chunks`: the transaction that puts chunks in the place of an index's own. -/
def replaceChunks (workspaceId indexId : String) (drawn : Nat → String)
    (chunks : List (ChunkInput Score)) : Except Exn (Database Score) :=
  match getIndex database workspaceId indexId with
  | none => .error ⟨.otherError, "'Knowledge index not found'"⟩
  | some index => do
      let prepared ← chunks.zipIdx.mapM fun entry =>
        prepareChunk tests index (drawn entry.2) entry.1
      if ¬ (prepared.map ChunkRow.ordinal).Nodup then
        .error (Exn.valueError "Chunk ordinals must be unique within an index")
      else if ¬ (prepared.map ChunkRow.contentSha256).Nodup then
        .error (Exn.valueError "Chunk content must be unique within an index")
      else do
        let emptied : Database Score :=
          { database with
            chunks := database.chunks.deleteWhere fun row =>
              row.workspaceId = workspaceId && row.knowledgeIndexId = indexId }
        let filled ← prepared.foldlM insertChunk emptied
        .ok
          { filled with
            indexes := filled.indexes.updateWhere
              (fun row => row.workspaceId = workspaceId && row.id = indexId)
              ⟨fun row =>
                { row with
                  status := .indexing
                  chunkCount := prepared.length
                  errorMessage := none }, fun _ => rfl⟩ }

/-- `replace_index`, once the index row is there. -/
def fillIndex (spec : IndexSpec) (index : IndexRow) (drawnChunks : Nat → String)
    (chunks : List (ChunkInput Score)) : Except Exn Unit × Database Score :=
  let indexing := markIndexing database spec.workspaceId index.id
  match replaceChunks tests indexing spec.workspaceId index.id drawnChunks chunks with
  | .error raised => (.error raised, indexing)
  | .ok replaced => (.ok (), markReady replaced spec.workspaceId index.id)

/-- `replace_index`. -/
def replaceIndex (drawn : String) (spec : IndexSpec) (drawnChunks : Nat → String)
    (chunks : List (ChunkInput Score)) : Except Exn Unit × Database Score :=
  match createOrGetIndex database drawn spec with
  | (.error raised, after) => (.error raised, after)
  | (.ok index, after) => fillIndex tests after spec index drawnChunks chunks

end Repository

/-! ## Runs -/

/-- What `delete_contract` empties, statement by statement. -/
inductive DeletedPart where
  | chunks
  | indexes
  | reviews
  | auditEvents
  | versions
  | contract
deriving DecidableEq, Repr

def deletePart {Score : Type} (database : Database Score) (workspaceId contractId : String) :
    DeletedPart → Database Score
  | .chunks =>
      { database with
        chunks := database.chunks.deleteWhere fun row =>
          row.workspaceId = workspaceId && row.contractId = contractId }
  | .indexes =>
      { database with
        indexes := database.indexes.deleteWhere fun row =>
          row.workspaceId = workspaceId && row.contractId = contractId }
  | .reviews =>
      { database with
        reviews := database.reviews.deleteWhere fun row =>
          database.versions.rows.any fun version =>
            version.contractId = contractId && version.id = row.contractVersionId }
  | .auditEvents =>
      { database with
        auditEvents := database.auditEvents.deleteWhere fun row =>
          row.workspaceId = workspaceId && row.contractId = some contractId }
  | .versions =>
      { database with
        versions := database.versions.deleteWhere fun row => row.contractId = contractId }
  | .contract =>
      { database with
        contracts := database.contracts.deleteWhere fun row =>
          row.workspaceId = workspaceId && row.id = contractId }

/-- A committed statement or transaction on these tables.  Calls of several workers
interleave as their transactions do. -/
inductive Action (Score : Type) where
  /-- the two inserts of `create_contract_with_version` -/
  | createContract (contractId versionId workspaceId : String) (title : Option String)
      (status : String) (now : Int)
  | updateContract (contractId status : String) (now : Int)
  | saveReview (review : ReviewRow)
  | recordEvent (event : AuditEventRow)
  | insertIndex (drawn : String) (spec : IndexSpec)
  | updateProvenance (spec : IndexSpec) (indexId : String)
  | setStatus (workspaceId indexId : String) (status : IndexStatus)
      (errorMessage : Option String)
  | replaceChunks (workspaceId indexId : String) (drawn : Nat → String)
      (chunks : List (ChunkInput Score))
  | delete (part : DeletedPart) (workspaceId contractId : String)

section Actions

variable {Score : Type} (tests : ChunkTests Score)

/-- The inserts of a new contract and its first version. -/
def insertContract (database : Database Score) (contract : ContractRow)
    (version : VersionRow) : Database Score :=
  match database.contracts.insert? contract, database.versions.insert? version with
  | some contracts, some versions => { database with contracts, versions }
  | _, _ => database

/-- What the action leaves; a transaction that raises is rolled back. -/
def Action.apply (database : Database Score) : Action Score → Database Score
  | createContract contractId versionId workspaceId title status now =>
      insertContract database
        { id := contractId, workspaceId, title, status
          currentVersionId := some versionId, createdAt := now, updatedAt := now }
        { id := versionId, contractId }
  | updateContract contractId status now =>
      { database with
        contracts := database.contracts.updateWhere (fun row => row.id = contractId)
          ⟨fun row => { row with status, updatedAt := now }, fun _ => rfl⟩ }
  | saveReview review =>
      { database with
        reviews := database.reviews.upsert review
          ⟨fun row => { row with reviewJson := review.reviewJson }, fun _ => rfl⟩ }
  | recordEvent event =>
      { database with auditEvents := database.auditEvents.insertIgnore event }
  | insertIndex drawn spec => KnowledgeBase.insertIndex database drawn spec
  | updateProvenance spec indexId => KnowledgeBase.updateProvenance database spec indexId
  | setStatus workspaceId indexId status errorMessage =>
      KnowledgeBase.setStatus database workspaceId indexId status errorMessage
  | replaceChunks workspaceId indexId drawn chunks =>
      match KnowledgeBase.replaceChunks tests database workspaceId indexId drawn chunks with
      | .ok replaced => replaced
      | .error _ => database
  | delete part workspaceId contractId => deletePart database workspaceId contractId part

/-- A drawn identifier is not in use. -/
def Action.Fresh (database : Database Score) : Action Score → Prop
  | createContract _ versionId _ _ _ _ =>
      ∀ contract ∈ database.contracts.rows, contract.currentVersionId ≠ some versionId
  | insertIndex drawn _ =>
      ∀ chunk ∈ database.chunks.rows, chunk.knowledgeIndexId ≠ drawn
  | _ => True

/-- An action and the state that it finds. -/
structure KnowledgeStep (Score : Type) where
  action : Action Score
  before : Database Score

def KnowledgeStep.after (step : KnowledgeStep Score) : Database Score :=
  step.action.apply tests step.before

/-- The runs of the repositories from empty tables. -/
abbrev KnowledgeRun : List (KnowledgeStep Score) → Database Score → Prop :=
  Run KnowledgeStep.before (KnowledgeStep.after tests)
    (fun step => step.action.Fresh step.before) {}

end Actions

/-! ## What every run keeps -/

/-- Chunks carry the contract and version of their index, current versions belong to
their contracts, and an index row is the only one under its key. -/
structure Coherent {Score : Type} (database : Database Score) : Prop where
  chunk : ∀ chunk ∈ database.chunks.rows, ∀ index ∈ database.indexes.rows,
    index.id = chunk.knowledgeIndexId → index.workspaceId = chunk.workspaceId ∧
      index.contractId = chunk.contractId ∧
        index.contractVersionId = chunk.contractVersionId
  current : ∀ contract ∈ database.contracts.rows, ∀ version ∈ database.versions.rows,
    contract.currentVersionId = some version.id → version.contractId = contract.id
  keys : (database.indexes.rows.map IndexRow.key).Nodup

section Coherence

variable {Score : Type} {tests : ChunkTests Score} {database : Database Score}

theorem coherent_empty : Coherent ({} : Database Score) :=
  ⟨by simp [RowTable.empty], by simp [RowTable.empty], by simp [RowTable.empty]⟩

/-- An update of index rows that leaves what their chunks carry. -/
theorem Coherent.updateIndexes (coherent : Coherent database) (condition : IndexRow → Bool)
    (change : RowTable.Change IndexRow.id)
    (owner : ∀ row, (change.apply row).contractId = row.contractId)
    (unset : ∀ row, (change.apply row).key = row.key) :
    Coherent { database with indexes := database.indexes.updateWhere condition change } where
  chunk := by
    intro chunk inChunks index inIndexes same
    obtain ⟨old, member, rfl⟩ := List.mem_map.mp inIndexes
    by_cases changed : condition old = true
    · rw [if_pos changed] at same ⊢
      rw [change.keeps] at same
      have key := unset old
      simp only [IndexRow.key, Prod.mk.injEq] at key
      rw [key.1, key.2.1, owner old]
      exact coherent.chunk chunk inChunks old member same
    · rw [if_neg changed] at same ⊢
      exact coherent.chunk chunk inChunks old member same
  current := coherent.current
  keys := by
    rw [RowTable.map_updateWhere IndexRow.key _ _ _ unset]
    exact coherent.keys

/-- Rows may go. -/
theorem Coherent.mono {smaller : Database Score} (coherent : Coherent database)
    (chunks : smaller.chunks.rows ⊆ database.chunks.rows)
    (indexes : smaller.indexes.rows.Sublist database.indexes.rows)
    (contracts : smaller.contracts.rows ⊆ database.contracts.rows)
    (versions : smaller.versions.rows ⊆ database.versions.rows) : Coherent smaller where
  chunk chunk inChunks index inIndexes :=
    coherent.chunk chunk (chunks inChunks) index (indexes.subset inIndexes)
  current contract inContracts version inVersions :=
    coherent.current contract (contracts inContracts) version (versions inVersions)
  keys := (indexes.map IndexRow.key).nodup coherent.keys

theorem deleteWhere_sublist {Row Key : Type} {key : Row → Key} (table : RowTable key)
    (condition : Row → Bool) :
    (table.deleteWhere condition).rows.Sublist table.rows :=
  List.filter_sublist

theorem Coherent.deletePart (coherent : Coherent database) (workspaceId contractId : String)
    (part : DeletedPart) : Coherent (deletePart database workspaceId contractId part) := by
  cases part with
  | chunks =>
      exact coherent.mono (deleteWhere_sublist _ _).subset (List.Sublist.refl _)
        (fun _ => id) (fun _ => id)
  | indexes =>
      exact coherent.mono (fun _ => id) (deleteWhere_sublist _ _) (fun _ => id) (fun _ => id)
  | reviews | auditEvents =>
      exact coherent.mono (fun _ => id) (List.Sublist.refl _) (fun _ => id) (fun _ => id)
  | versions =>
      exact coherent.mono (fun _ => id) (List.Sublist.refl _) (fun _ => id)
        (deleteWhere_sublist _ _).subset
  | contract =>
      exact coherent.mono (fun _ => id) (List.Sublist.refl _)
        (deleteWhere_sublist _ _).subset (fun _ => id)

theorem Coherent.insertIndex (coherent : Coherent database) {drawn : String}
    (fresh : ∀ chunk ∈ database.chunks.rows, chunk.knowledgeIndexId ≠ drawn)
    (spec : IndexSpec) : Coherent (insertIndex database drawn spec) := by
  unfold KnowledgeBase.insertIndex
  split
  · exact coherent
  · rename_i unkeyed
    unfold RowTable.insertIgnore
    cases inserted : database.indexes.insert?
        { id := drawn, workspaceId := spec.workspaceId, contractId := spec.contractId
          contractVersionId := spec.contractVersionId
          embeddingProvider := spec.embeddingProvider
          embeddingModel := spec.embeddingModel
          rerankerProvider := spec.rerankerProvider, rerankerModel := spec.rerankerModel
          chunkingVersion := spec.chunkingVersion } with
    | none => exact coherent
    | some indexes =>
        have rows := RowTable.rows_of_insert? inserted
        constructor
        · intro chunk inChunks index inIndexes same
          change index ∈ indexes.rows at inIndexes
          rw [rows] at inIndexes
          rcases List.mem_append.mp inIndexes with old | new
          · exact coherent.chunk chunk inChunks index old same
          · rw [List.mem_singleton] at new
            rw [new] at same
            exact absurd same.symm (fresh chunk inChunks)
        · exact coherent.current
        · change (indexes.rows.map IndexRow.key).Nodup
          rw [rows, List.map_append, List.nodup_append]
          refine ⟨coherent.keys, by simp, ?_⟩
          intro key inOld other single equal
          rw [List.map_singleton, List.mem_singleton] at single
          obtain ⟨old, member, named⟩ := List.mem_map.mp inOld
          apply unkeyed
          rw [List.any_eq_true]
          exact ⟨old, member, by rw [decide_eq_true_eq, named, equal, single]⟩

theorem Coherent.insertContract (coherent : Coherent database) (contract : ContractRow)
    (version : VersionRow)
    (unused : ∀ other ∈ database.contracts.rows, other.currentVersionId ≠ some version.id)
    (own : contract.currentVersionId = some version.id)
    (belongs : version.contractId = contract.id) :
    Coherent (insertContract database contract version) := by
  unfold KnowledgeBase.insertContract
  split
  · rename_i contracts versions inContracts inVersions
    have contractRows := RowTable.rows_of_insert? inContracts
    have versionRows := RowTable.rows_of_insert? inVersions
    have newVersion : version.id ∉ database.versions.rows.map VersionRow.id := by
      rw [← RowTable.find?_eq_none_iff, ← RowTable.insert?_isSome_iff, inVersions]
      rfl
    refine ⟨coherent.chunk, ?_, coherent.keys⟩
    intro someContract memberContract someVersion memberVersion named
    change someContract ∈ contracts.rows at memberContract
    change someVersion ∈ versions.rows at memberVersion
    rw [contractRows, List.mem_append, List.mem_singleton] at memberContract
    rw [versionRows, List.mem_append, List.mem_singleton] at memberVersion
    rcases memberContract with oldContract | rfl
    · rcases memberVersion with oldVersion | rfl
      · exact coherent.current someContract oldContract someVersion oldVersion named
      · exact absurd named (unused someContract oldContract)
    · rcases memberVersion with oldVersion | rfl
      · rw [own, Option.some.injEq] at named
        exact absurd (List.mem_map_of_mem oldVersion) (named ▸ newVersion)
      · exact belongs
  · exact coherent

/-- What a stored chunk takes from its index. -/
structure Carries (index : IndexRow) (chunk : ChunkRow Score) : Prop where
  indexId : chunk.knowledgeIndexId = index.id
  workspace : chunk.workspaceId = index.workspaceId
  contract : chunk.contractId = index.contractId
  version : chunk.contractVersionId = index.contractVersionId

theorem carries_of_prepared {index : IndexRow} {drawn : String} {input : ChunkInput Score}
    {row : ChunkRow Score} (prepared : prepareChunk tests index drawn input = .ok row) :
    Carries index row := by
  unfold prepareChunk at prepared
  dsimp only at prepared
  split at prepared
  · cases prepared
  · split at prepared
    · cases prepared
    · split at prepared
      · cases prepared
      · split at prepared
        · cases prepared
        · split at prepared
          · cases prepared
          · split at prepared
            · cases prepared
            · cases valid : validateEmbedding tests input.embedding with
              | error raised => rw [valid] at prepared; cases prepared
              | ok embedding =>
                  rw [valid] at prepared
                  cases prepared
                  exact ⟨rfl, rfl, rfl, rfl⟩

theorem mem_of_mapM {Input Output : Type} {f : Input → Except Exn Output}
    {inputs : List Input} :
    ∀ {outputs : List Output}, inputs.mapM f = .ok outputs →
      ∀ output ∈ outputs, ∃ input ∈ inputs, f input = .ok output := by
  induction inputs with
  | nil =>
      intro outputs mapped output member
      cases mapped
      cases member
  | cons input inputs induction =>
      intro outputs mapped output member
      rw [List.mapM_cons] at mapped
      cases first : f input with
      | error raised => rw [first] at mapped; cases mapped
      | ok made =>
          cases rest : inputs.mapM f with
          | error raised => simp [first, rest, bind, Except.bind] at mapped
          | ok others =>
              simp only [first, rest, bind, Except.bind, pure, Except.pure,
                Except.ok.injEq] at mapped
              subst mapped
              rcases List.mem_cons.mp member with rfl | later
              · exact ⟨input, by simp, first⟩
              · obtain ⟨other, inInputs, made⟩ := induction rest output later
                exact ⟨other, List.mem_cons_of_mem _ inInputs, made⟩

theorem insertChunk_ok {row : ChunkRow Score} {filled : Database Score}
    (inserted : insertChunk database row = .ok filled) :
    filled.chunks.rows = database.chunks.rows ++ [row] ∧
      filled = { database with chunks := filled.chunks } := by
  unfold insertChunk at inserted
  split at inserted
  · cases inserted
  · split at inserted
    · cases inserted
    · rename_i chunks success
      cases inserted
      exact ⟨RowTable.rows_of_insert? success, rfl⟩

theorem insertChunks_ok {prepared : List (ChunkRow Score)} :
    ∀ {database filled : Database Score}, prepared.foldlM insertChunk database = .ok filled →
      filled.chunks.rows = database.chunks.rows ++ prepared ∧
        filled = { database with chunks := filled.chunks } := by
  induction prepared with
  | nil =>
      intro database filled inserted
      cases inserted
      exact ⟨(List.append_nil _).symm, rfl⟩
  | cons row prepared induction =>
      intro database filled inserted
      rw [List.foldlM_cons] at inserted
      cases first : insertChunk database row with
      | error raised => rw [first] at inserted; cases inserted
      | ok after =>
          rw [first] at inserted
          obtain ⟨rows, others⟩ := insertChunk_ok first
          obtain ⟨later, same⟩ := induction inserted
          refine ⟨by rw [later, rows]; simp, ?_⟩
          rw [same, others]

/-- What `replace_chunks` comes to when it succeeds. -/
theorem replaceChunks_ok {workspaceId indexId : String} {drawn : Nat → String}
    {chunks : List (ChunkInput Score)} {replaced : Database Score}
    (success : replaceChunks tests database workspaceId indexId drawn chunks =
      .ok replaced) :
    ∃ index ∈ database.indexes.rows, index.id = indexId ∧
      ∃ prepared : List (ChunkRow Score), (∀ row ∈ prepared, Carries index row) ∧
        (∀ row ∈ replaced.chunks.rows, row ∈ database.chunks.rows ∨ row ∈ prepared) ∧
        replaced =
          { database with
            chunks := replaced.chunks
            indexes := database.indexes.updateWhere
              (fun row => row.workspaceId = workspaceId && row.id = indexId)
              ⟨fun row =>
                { row with
                  status := .indexing
                  chunkCount := prepared.length
                  errorMessage := none }, fun _ => rfl⟩ } := by
  unfold replaceChunks at success
  split at success
  · cases success
  · rename_i index found
    rw [getIndex, Option.filter_eq_some_iff] at found
    cases made : chunks.zipIdx.mapM fun entry =>
        prepareChunk tests index (drawn entry.2) entry.1 with
    | error raised => rw [made] at success; cases success
    | ok prepared =>
        rw [made] at success
        simp only [bind, Except.bind] at success
        split at success
        · cases success
        · split at success
          · cases success
          · split at success
            · cases success
            · rename_i filled inserted
              obtain ⟨rows, others⟩ := insertChunks_ok inserted
              cases success
              refine ⟨index, RowTable.mem_of_find? found.1, RowTable.key_of_find? found.1,
                prepared, ?_, ?_, ?_⟩
              · intro row member
                obtain ⟨entry, _, prepares⟩ := mem_of_mapM made row member
                exact carries_of_prepared prepares
              · intro row member
                change row ∈ filled.chunks.rows at member
                rw [rows, List.mem_append] at member
                exact member.imp_left fun old => (deleteWhere_sublist _ _).subset old
              · rw [others]

theorem Coherent.replaceChunks (coherent : Coherent database) {workspaceId indexId : String}
    {drawn : Nat → String} {chunks : List (ChunkInput Score)} {replaced : Database Score}
    (success : replaceChunks tests database workspaceId indexId drawn chunks =
      .ok replaced) : Coherent replaced := by
  obtain ⟨index, stored, named, prepared, carries, rows, same⟩ := replaceChunks_ok success
  have filled : Coherent { database with chunks := replaced.chunks } := by
    refine ⟨?_, coherent.current, coherent.keys⟩
    intro chunk inChunks other inIndexes otherNamed
    rcases rows chunk inChunks with old | new
    · exact coherent.chunk chunk old other inIndexes otherNamed
    · have carried := carries chunk new
      have equal : other = index := by
        have here := RowTable.find?_of_mem inIndexes
        rw [otherNamed, carried.indexId, RowTable.find?_of_mem stored] at here
        exact (Option.some.inj here).symm
      rw [equal]
      exact ⟨carried.workspace.symm, carried.contract.symm, carried.version.symm⟩
  rw [same]
  exact filled.updateIndexes _ _ (fun _ => rfl) (fun _ => rfl)

/-- Every action keeps the tables coherent. -/
theorem Coherent.apply (coherent : Coherent database) {action : Action Score}
    (fresh : action.Fresh database) : Coherent (action.apply tests database) := by
  cases action with
  | createContract contractId versionId workspaceId title status now =>
      exact coherent.insertContract _ _ fresh rfl rfl
  | updateContract contractId status now =>
      refine ⟨coherent.chunk, ?_, coherent.keys⟩
      intro contract inContracts version inVersions named
      obtain ⟨old, member, rfl⟩ := List.mem_map.mp inContracts
      by_cases changed : decide (old.id = contractId) = true
      · rw [if_pos changed] at named ⊢
        exact coherent.current old member version inVersions named
      · rw [if_neg changed] at named ⊢
        exact coherent.current old member version inVersions named
  | saveReview review | recordEvent event =>
      exact ⟨coherent.chunk, coherent.current, coherent.keys⟩
  | insertIndex drawn spec => exact coherent.insertIndex fresh spec
  | updateProvenance spec indexId | setStatus workspaceId indexId status errorMessage =>
      exact coherent.updateIndexes _ _ (fun _ => rfl) (fun _ => rfl)
  | replaceChunks workspaceId indexId drawn chunks =>
      rw [Action.apply]
      split
      · rename_i success
        exact coherent.replaceChunks success
      · exact coherent
  | delete part workspaceId contractId => exact coherent.deletePart workspaceId contractId part

theorem coherent_of_run {steps : List (KnowledgeStep Score)} {final : Database Score}
    (run : KnowledgeRun tests steps final) : Coherent final := by
  apply (run.invariant Coherent coherent_empty _).1
  intro step _ fresh coherent
  exact coherent.apply fresh

end Coherence

/-! ## The calls -/

section Calls

variable {Score : Type} {tests : ChunkTests Score} {database : Database Score}

/-- The database that some further actions make of another one, none of which draws an
identifier in use. -/
def Leads (tests : ChunkTests Score) (before after : Database Score) : Prop :=
  ∀ steps, KnowledgeRun tests steps before →
    ∃ more, KnowledgeRun tests (steps ++ more) after

theorem Leads.refl (database : Database Score) : Leads tests database database :=
  fun _ run => ⟨[], by simpa using run⟩

theorem Leads.trans {middle after : Database Score} (earlier : Leads tests database middle)
    (later : Leads tests middle after) : Leads tests database after := by
  intro steps run
  obtain ⟨first, reached⟩ := earlier steps run
  obtain ⟨second, ended⟩ := later _ reached
  exact ⟨first ++ second, by rwa [← List.append_assoc]⟩

theorem leads_apply {action : Action Score} (fresh : action.Fresh database) :
    Leads tests database (action.apply tests database) :=
  fun _ run => ⟨[⟨action, database⟩], run.step ⟨action, database⟩ rfl fresh⟩

/-- `create_or_get_index` is a sequence of actions. -/
theorem leads_createOrGetIndex {drawn : String}
    (fresh : ∀ chunk ∈ database.chunks.rows, chunk.knowledgeIndexId ≠ drawn)
    (spec : IndexSpec) :
    Leads tests database (createOrGetIndex database drawn spec).2 := by
  have inserts : Leads tests database (insertIndex database drawn spec) := by
    have action : (Action.insertIndex drawn spec).Fresh database := fresh
    exact leads_apply action
  unfold createOrGetIndex
  split
  · exact Leads.refl database
  · dsimp only
    split
    · exact inserts
    · rename_i index _
      split
      · have updates : Leads tests (insertIndex database drawn spec)
            (updateProvenance (insertIndex database drawn spec) spec index.id) := by
          have action : (Action.updateProvenance spec index.id).Fresh
            (insertIndex database drawn spec) := trivial
          exact leads_apply action
        split <;> exact inserts.trans updates
      · exact inserts

theorem leads_setStatus (workspaceId indexId : String) (status : IndexStatus)
    (errorMessage : Option String) :
    Leads tests database (setStatus database workspaceId indexId status errorMessage) := by
  have action : (Action.setStatus workspaceId indexId status errorMessage).Fresh database :=
    trivial
  exact leads_apply action

theorem leads_replaceChunks {workspaceId indexId : String} {drawn : Nat → String}
    {chunks : List (ChunkInput Score)} {replaced : Database Score}
    (success : replaceChunks tests database workspaceId indexId drawn chunks =
      .ok replaced) : Leads tests database replaced := by
  have action : (Action.replaceChunks workspaceId indexId drawn chunks).Fresh database :=
    trivial
  have applied : (Action.replaceChunks workspaceId indexId drawn chunks).apply tests
      database = replaced := by
    rw [Action.apply, success]
  exact applied ▸ leads_apply action

/-- So is `replace_index`. -/
theorem leads_replaceIndex {drawn : String}
    (fresh : ∀ chunk ∈ database.chunks.rows, chunk.knowledgeIndexId ≠ drawn)
    (spec : IndexSpec) (drawnChunks : Nat → String) (chunks : List (ChunkInput Score)) :
    Leads tests database (replaceIndex tests database drawn spec drawnChunks chunks).2 := by
  have creates : Leads tests database (createOrGetIndex database drawn spec).2 :=
    leads_createOrGetIndex fresh spec
  unfold replaceIndex
  split
  · rename_i after created
    rwa [created] at creates
  · rename_i index after created
    rw [created] at creates
    have marks : Leads tests after (markIndexing after spec.workspaceId index.id) :=
      leads_setStatus _ _ _ _
    unfold fillIndex
    dsimp only
    split
    · exact creates.trans marks
    · rename_i replaced success
      exact creates.trans (marks.trans ((leads_replaceChunks success).trans
        (leads_setStatus _ _ _ _)))

end Calls

end KnowledgeBase

end ContractMate
