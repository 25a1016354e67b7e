import ContractMate.KnowledgeBase

/-!
# Hybrid search

The search over the chunks of current contract versions, for each of the two databases:
a semantic and a lexical ranking, cut off at the candidate pool and fused.
-/

namespace ContractMate

namespace HybridSearch

open KnowledgeBase PythonText

/-- The scores of the two databases.  SQLite's are computed by the repository, those of
PostgreSQL by its operators. -/
structure SearchScores (Score : Type) extends ChunkTests Score where
  zero : Score
  ofNat : Nat → Score
  plus : Score → Score → Score
  dividedBy : Score → Score → Score
  cosineSimilarity : List Score → List Score → Score
  termOverlap : Text → Text → Score
  cosineDistance : List Score → List Score → Score
  fromDistance : Score → Score
  textMatches : Text → Text → Bool
  textRank : Text → Text → Score

/-- `1.0 / (60.0 + rank)`, and `0.0` where there is no rank. -/
def SearchScores.reciprocal {Score : Type} (scores : SearchScores Score) : Option Nat → Score
  | some rank =>
      scores.dividedBy (scores.ofNat 1) (scores.plus (scores.ofNat 60) (scores.ofNat rank))
  | none => scores.zero

/-- The arguments of `hybrid_search`. -/
structure Search (Score : Type) where
  workspaceId : String
  queryText : Text
  queryEmbedding : List Score
  contractId : Option String := none
  limit : Int := 20
  candidatePool : Int := 100
deriving DecidableEq, Repr

/-- `KnowledgeSearchHit`. -/
structure SearchHit (Score : Type) where
  chunk : ChunkRow Score
  semanticScore : Score
  lexicalScore : Score
  fusedScore : Score
deriving DecidableEq, Repr

section Searches

variable {Score : Type}

namespace Search

variable (search : Search Score)

def safeLimit : Int :=
  max 1 (min search.limit 100)

def safePool : Int :=
  max search.safeLimit (min search.candidatePool 500)

end Search

/-- The contract filter; an empty identifier filters nothing. -/
def inScope (contractId : Option String) (rowContractId : String) : Bool :=
  match contractId.filter fun scope => scope ≠ "" with
  | none => true
  | some scope => rowContractId = scope

section Rows

variable (database : Database Score) (workspaceId : String) (contractId : Option String)

/-- The index row is there, ready and in the workspace of the chunk. -/
def readyIndex (chunk : ChunkRow Score) : Bool :=
  database.indexes.rows.any fun index =>
    index.id = chunk.knowledgeIndexId && index.workspaceId = chunk.workspaceId &&
      index.status = .ready

/-- The version is the current one of its contract. -/
def currentVersion (rowWorkspaceId rowContractId rowVersionId : String) : Bool :=
  database.contracts.rows.any fun contract =>
    contract.id = rowContractId && contract.workspaceId = rowWorkspaceId &&
      contract.currentVersionId = some rowVersionId

/-- The chunks that a search joins with their index and their contract. -/
def joined : List (ChunkRow Score) :=
  database.chunks.select fun chunk =>
    chunk.workspaceId = workspaceId && inScope contractId chunk.contractId &&
      readyIndex database chunk &&
        currentVersion database chunk.workspaceId chunk.contractId chunk.contractVersionId

end Rows

variable [LinearOrder Score] (scores : SearchScores Score)

/-- `(-hit.fused_score, -hit.semantic_score, hit.chunk.id)`, compared. -/
def hitBefore (first second : SearchHit Score) : Bool :=
  decide (second.fusedScore < first.fusedScore) ||
    (first.fusedScore == second.fusedScore &&
      (decide (second.semanticScore < first.semanticScore) ||
        (first.semanticScore == second.semanticScore &&
          decide (first.chunk.id ≤ second.chunk.id))))

/-- The best hits in order. -/
def bestHits (limit : Int) (hits : List (SearchHit Score)) : List (SearchHit Score) :=
  (hits.insertionSort fun first second => hitBefore first second = true).take limit.toNat

/-! ## SQLite -/

/-- A chunk with its two scores. -/
structure Candidate (Score : Type) where
  chunk : ChunkRow Score
  semantic : Score
  lexical : Score
deriving DecidableEq, Repr

abbrev Candidate.id (candidate : Candidate Score) : String :=
  candidate.chunk.id

/-- `sorted(scored, key=lambda item: (-score, item[0].id))[:candidate_pool]`. -/
def rankedBy (score : Candidate Score → Score) (pool : Int)
    (scored : List (Candidate Score)) : List (Candidate Score) :=
  (scored.insertionSort fun first second =>
    score second < score first ∨ (score first = score second ∧ first.id ≤ second.id)).take
      pool.toNat

/-- The chunks that a search scores. -/
def scoredChunks (rows : List (ChunkRow Score)) (search : Search Score) :
    List (Candidate Score) :=
  rows.map fun chunk =>
    { chunk
      semantic := scores.cosineSimilarity search.queryEmbedding chunk.embedding
      lexical := scores.termOverlap search.queryText chunk.content }

def semanticRanked (scored : List (Candidate Score)) (search : Search Score) :
    List (Candidate Score) :=
  rankedBy Candidate.semantic search.safePool scored

def lexicalRanked (scored : List (Candidate Score)) (search : Search Score) :
    List (Candidate Score) :=
  rankedBy Candidate.lexical search.safePool scored

/-- `semantic_ranked + lexical_ranked`. -/
def rankedItems (rows : List (ChunkRow Score)) (search : Search Score) :
    List (Candidate Score) :=
  let scored := scoredChunks scores rows search
  semanticRanked scored search ++ lexicalRanked scored search

/-- `by_id`, a dictionary. -/
def byId (ranked : List (Candidate Score)) : RowTable (@Candidate.id Score) :=
  ranked.foldl RowTable.put .empty

/-- The hit of a candidate, given the two rankings. -/
def candidateHit (semantic lexical : List (Candidate Score)) (item : Candidate Score) :
    SearchHit Score where
  chunk := item.chunk
  semanticScore := item.semantic
  lexicalScore := item.lexical
  fusedScore := scores.plus
    (scores.reciprocal ((semantic.findIdx? fun other => other.id = item.id).map (· + 1)))
    (scores.reciprocal ((lexical.findIdx? fun other =>
      other.id = item.id && decide (scores.zero < other.lexical)).map (· + 1)))

/-- `_sqlite_hybrid_search`. -/
def sqliteHybridSearch (database : Database Score) (search : Search Score) :
    List (SearchHit Score) :=
  let rows := joined database search.workspaceId search.contractId
  let scored := scoredChunks scores rows search
  bestHits search.safeLimit
    ((byId (rankedItems scores rows search)).rows.map
      (candidateHit scores (semanticRanked scored search) (lexicalRanked scored search)))

/-! ## PostgreSQL -/

/-- The CTE `semantic`. -/
def nearest (rows : List (ChunkRow Score)) (search : Search Score) : List (ChunkRow Score) :=
  let distance (chunk : ChunkRow Score) :=
    scores.cosineDistance chunk.embedding search.queryEmbedding
  (rows.insertionSort fun first second => distance first ≤ distance second).take
    search.safePool.toNat

/-- The CTE `lexical`. -/
def matching (rows : List (ChunkRow Score)) (search : Search Score) : List (ChunkRow Score) :=
  let rank (chunk : ChunkRow Score) := scores.textRank search.queryText chunk.content
  ((rows.filter fun chunk => scores.textMatches search.queryText chunk.content).insertionSort
    fun first second => rank second ≤ rank first).take search.safePool.toNat

/-- The row of the final query for a candidate. -/
def candidateRow (search : Search Score) (semantic lexical : List (ChunkRow Score))
    (chunk : ChunkRow Score) : SearchHit Score where
  chunk := chunk
  semanticScore :=
    if semantic.any fun other => other.id = chunk.id then
      scores.fromDistance (scores.cosineDistance chunk.embedding search.queryEmbedding)
    else scores.zero
  lexicalScore :=
    if lexical.any fun other => other.id = chunk.id then
      scores.textRank search.queryText chunk.content
    else scores.zero
  fusedScore := scores.plus
    (scores.reciprocal ((semantic.findIdx? fun other => other.id = chunk.id).map (· + 1)))
    (scores.reciprocal ((lexical.findIdx? fun other => other.id = chunk.id).map (· + 1)))

/-- The chunks that the final query joins with `candidates`. -/
def candidateChunks (database : Database Score) (search : Search Score) :
    List (ChunkRow Score) :=
  let rows := joined database search.workspaceId search.contractId
  database.chunks.select fun chunk =>
    chunk.workspaceId = search.workspaceId &&
      (nearest scores rows search ++ matching scores rows search).any fun other =>
        other.id = chunk.id

/-- `_postgres_hybrid_search`; rows that a ranking does not tell apart keep the order of
the table. -/
def postgresHybridSearch (database : Database Score) (search : Search Score) :
    List (SearchHit Score) :=
  let rows := joined database search.workspaceId search.contractId
  bestHits search.safeLimit
    ((candidateChunks scores database search).map
      (candidateRow scores search (nearest scores rows search)
        (matching scores rows search)))

/-! ## The search -/

/-- The search of either database. -/
def hitsOf (sqlite : Bool) (database : Database Score) (search : Search Score) :
    List (SearchHit Score) :=
  if sqlite then sqliteHybridSearch scores database search
  else postgresHybridSearch scores database search

/-- `hybrid_search`. -/
def hybridSearch (sqlite : Bool) (database : Database Score) (search : Search Score) :
    Except Exn (List (SearchHit Score)) := do
  let embedding ← validateEmbedding scores.toChunkTests search.queryEmbedding
  let queryText := strip search.queryText
  if queryText = [] then .error (Exn.valueError "query_text is required")
  else
    .ok (hitsOf scores sqlite database { search with queryText, queryEmbedding := embedding })

end Searches

/-! ## What a search returns -/

section Hits

variable {Score : Type} {database : Database Score} {workspaceId : String}
  {contractId : Option String}

variable {chunk : ChunkRow Score} {hits : List (SearchHit Score)} {hit : SearchHit Score}
  {item : Candidate Score} {rows : List (ChunkRow Score)}

theorem mem_joined :
    chunk ∈ joined database workspaceId contractId ↔
      chunk ∈ database.chunks.rows ∧ chunk.workspaceId = workspaceId ∧
        inScope contractId chunk.contractId = true ∧ readyIndex database chunk = true ∧
          currentVersion database chunk.workspaceId chunk.contractId
            chunk.contractVersionId = true := by
  simp only [joined, RowTable.select, List.mem_filter, Bool.and_eq_true, decide_eq_true_eq,
    and_assoc]

/-- A joined chunk is the only one with its identifier. -/
theorem joined_of_id {chunk other : ChunkRow Score} (stored : chunk ∈ database.chunks.rows)
    (member : other ∈ joined database workspaceId contractId) (same : other.id = chunk.id) :
    chunk ∈ joined database workspaceId contractId := by
  have here := RowTable.find?_of_mem (mem_joined.mp member).1
  rw [same, RowTable.find?_of_mem stored] at here
  exact Option.some.inj here ▸ member

theorem length_le_joined {Row : Type} {key : Row → String} {rows : List Row}
    (distinct : (rows.map key).Nodup)
    (inside : ∀ row ∈ rows, ∃ chunk ∈ joined database workspaceId contractId,
      chunk.id = key row) :
    rows.length ≤ (joined database workspaceId contractId).length := by
  have subset : rows.map key ⊆ (joined database workspaceId contractId).map ChunkRow.id := by
    intro value member
    obtain ⟨row, inRows, rfl⟩ := List.mem_map.mp member
    obtain ⟨chunk, inJoined, named⟩ := inside row inRows
    exact List.mem_map.mpr ⟨chunk, inJoined, named⟩
  have bound := (List.subperm_of_subset distinct subset).length_le
  rwa [List.length_map, List.length_map] at bound

theorem safeLimit_le_safePool {search : Search Score} : search.safeLimit ≤ search.safePool :=
  le_max_left _ _

variable [LinearOrder Score] {scores : SearchScores Score} {search : Search Score}

theorem mem_bestHits {limit : Int} (member : hit ∈ bestHits limit hits) : hit ∈ hits := by
  have sorted := List.mem_of_mem_take member
  simpa using sorted

theorem mem_bestHits_of_fit {limit : Int}
    (fits : (hits.length : Int) ≤ limit) (member : hit ∈ hits) :
    hit ∈ bestHits limit hits := by
  rw [bestHits, List.take_of_length_le]
  · simpa using member
  · rw [List.length_insertionSort]
    omega

theorem mem_rankedBy {score : Candidate Score → Score} {pool : Int}
    {scored : List (Candidate Score)}
    (member : item ∈ rankedBy score pool scored) : item ∈ scored := by
  have sorted := List.mem_of_mem_take member
  simpa using sorted

theorem mem_rankedBy_of_fit {score : Candidate Score → Score} {pool : Int}
    {scored : List (Candidate Score)}
    (fits : (scored.length : Int) ≤ pool) (member : item ∈ scored) :
    item ∈ rankedBy score pool scored := by
  rw [rankedBy, List.take_of_length_le]
  · simpa using member
  · rw [List.length_insertionSort]
    omega

/-- The items of `by_id` are among the rows. -/
theorem chunk_of_byId
    (member : item ∈ (byId (rankedItems scores rows search)).rows) : item.chunk ∈ rows := by
  have scored : item ∈ scoredChunks scores rows search := by
    rcases RowTable.mem_foldl_put member with none_ | ranked
    · cases none_
    · rcases List.mem_append.mp ranked with semantic | lexical
      · exact mem_rankedBy semantic
      · exact mem_rankedBy lexical
  obtain ⟨chunk, inRows, rfl⟩ := List.mem_map.mp scored
  exact inRows

/-- A pool that holds all rows has an item for each of them. -/
theorem byId_of_fit (fits : (rows.length : Int) ≤ search.safePool) (member : chunk ∈ rows) :
    ∃ item ∈ (byId (rankedItems scores rows search)).rows, item.id = chunk.id := by
  have ranked : chunk.id ∈ (rankedItems scores rows search).map Candidate.id := by
    apply List.mem_map.mpr
    refine ⟨_, List.mem_append_left _
      (mem_rankedBy_of_fit ?_ (List.mem_map_of_mem member)), rfl⟩
    rwa [scoredChunks, List.length_map]
  have present : ((byId (rankedItems scores rows search)).find? chunk.id).isSome = true :=
    RowTable.find?_isSome_foldl_put (.inl ranked)
  obtain ⟨item, found⟩ := Option.isSome_iff_exists.mp present
  exact ⟨item, RowTable.mem_of_find? found, RowTable.key_of_find? found⟩

theorem nearest_subset :
    ∀ chunk ∈ nearest scores rows search, chunk ∈ rows := by
  intro chunk member
  have sorted := List.mem_of_mem_take member
  simpa using sorted

theorem matching_subset :
    ∀ chunk ∈ matching scores rows search, chunk ∈ rows := by
  intro chunk member
  have sorted := List.mem_of_mem_take member
  rw [List.mem_insertionSort] at sorted
  exact List.mem_of_mem_filter sorted

theorem joined_of_candidate (member : chunk ∈ candidateChunks scores database search) :
    chunk ∈ joined database search.workspaceId search.contractId := by
  rw [candidateChunks, RowTable.select, List.mem_filter, Bool.and_eq_true,
    List.any_eq_true] at member
  obtain ⟨stored, _, other, ranked, same⟩ := member
  rw [decide_eq_true_eq] at same
  rcases List.mem_append.mp ranked with semantic | lexical
  · exact joined_of_id stored (nearest_subset other semantic) same
  · exact joined_of_id stored (matching_subset other lexical) same

/-- Both databases return joined chunks only. -/
theorem joined_of_hit {sqlite : Bool}
    (member : hit ∈ hitsOf scores sqlite database search) :
    hit.chunk ∈ joined database search.workspaceId search.contractId := by
  cases sqlite with
  | true =>
      obtain ⟨item, inItems, rfl⟩ := List.mem_map.mp (mem_bestHits member)
      exact chunk_of_byId inItems
  | false =>
      obtain ⟨chunk, inCandidates, rfl⟩ := List.mem_map.mp (mem_bestHits member)
      exact joined_of_candidate inCandidates

theorem sqlite_hit_of_joined
    (fits : ((joined database search.workspaceId search.contractId).length : Int) ≤
      search.safeLimit)
    (member : chunk ∈ joined database search.workspaceId search.contractId) :
    ∃ hit ∈ sqliteHybridSearch scores database search, hit.chunk = chunk := by
  obtain ⟨item, inItems, same⟩ := byId_of_fit (fits.trans safeLimit_le_safePool) member
  have equal : item.chunk = chunk := by
    have here := RowTable.find?_of_mem (mem_joined.mp (chunk_of_byId inItems)).1
    have named : item.chunk.id = chunk.id := same
    rw [named, RowTable.find?_of_mem (mem_joined.mp member).1] at here
    exact (Option.some.inj here).symm
  refine ⟨_, mem_bestHits_of_fit ?_ (List.mem_map_of_mem inItems), equal⟩
  have bound : (byId (rankedItems scores
      (joined database search.workspaceId search.contractId) search)).rows.length ≤
        (joined database search.workspaceId search.contractId).length :=
    length_le_joined (RowTable.keys_nodup _) fun other inOthers =>
      ⟨other.chunk, chunk_of_byId inOthers, rfl⟩
  rw [List.length_map]
  exact (Int.ofNat_le.mpr bound).trans fits

theorem postgres_hit_of_joined
    (fits : ((joined database search.workspaceId search.contractId).length : Int) ≤
      search.safeLimit)
    (member : chunk ∈ joined database search.workspaceId search.contractId) :
    ∃ hit ∈ postgresHybridSearch scores database search, hit.chunk = chunk := by
  have near : chunk ∈ nearest scores
      (joined database search.workspaceId search.contractId) search := by
    have pool := fits.trans safeLimit_le_safePool
    rw [nearest, List.take_of_length_le]
    · simpa using member
    · rw [List.length_insertionSort]
      omega
  refine ⟨_, mem_bestHits_of_fit ?_ (List.mem_map_of_mem ?_), rfl⟩
  · have distinct : ((candidateChunks scores database search).map ChunkRow.id).Nodup :=
      (List.filter_sublist.map ChunkRow.id).nodup database.chunks.keys_nodup
    have bound : (candidateChunks scores database search).length ≤
        (joined database search.workspaceId search.contractId).length :=
      length_le_joined distinct fun other inOthers =>
        ⟨other, joined_of_candidate inOthers, rfl⟩
    rw [List.length_map]
    exact (Int.ofNat_le.mpr bound).trans fits
  · rw [candidateChunks, RowTable.select, List.mem_filter, Bool.and_eq_true, decide_eq_true_eq,
      List.any_eq_true]
    obtain ⟨stored, own, _⟩ := mem_joined.mp member
    exact ⟨stored, own, chunk, List.mem_append_left _ near, by simp⟩

/-- A limit that is not reached leaves no joined chunk out. -/
theorem hit_of_joined (sqlite : Bool)
    (fits : ((joined database search.workspaceId search.contractId).length : Int) ≤
      search.safeLimit)
    (member : chunk ∈ joined database search.workspaceId search.contractId) :
    ∃ hit ∈ hitsOf scores sqlite database search, hit.chunk = chunk := by
  cases sqlite with
  | true => exact sqlite_hit_of_joined fits member
  | false => exact postgres_hit_of_joined fits member

theorem hybridSearch_ok {sqlite : Bool}
    (returned : hybridSearch scores sqlite database search = .ok hits) :
    hits = hitsOf scores sqlite database { search with queryText := strip search.queryText } := by
  unfold hybridSearch validateEmbedding at returned
  split at returned
  · cases returned
  · split at returned
    · cases returned
    · simp only [bind, Except.bind] at returned
      split at returned
      · cases returned
      · cases returned
        rfl

end Hits

end HybridSearch

end ContractMate
