import ContractMate.ContractIndexing
import ContractMate.ToolIsolation

/-!
# Reranked retrieval

`OpenRouterRerankClient.rerank` reads whatever the provider answers, and the retriever
picks the hits of a search by the positions that it finds there.
-/

namespace ContractMate

namespace Reranking

open ChatEvidence ChatTools ContractIndexing HybridSearch KnowledgeBase PythonText

/-! ## The client -/

/-- The provider and the standard library: the response to a query, its documents and the
number of results, or an exception; `float` of a number; and which floats are not a number.
A list with one of these is left by the sort in some order. -/
structure RerankTransport (Score : Type) where
  post : Text → List Text → Option Int → Except Exn Json
  float : Json → Except Exn Score
  isNan : Score → Bool
  unordered : (results : List (RerankResult Score)) →
    { sorted : List (RerankResult Score) // sorted.Perm results }

section Client

variable {Score : Type} (transport : RerankTransport Score)

/-- `_request_rerank`. -/
def requestRerank (query : Text) (documents : List Text) (topN : Option Int) :
    Except Exn (List (String × Json)) :=
  match transport.post query documents topN with
  | .error _ => .error (openRouterApiError "OpenRouter rerank request failed.")
  | .ok (.object payload) => .ok payload
  | .ok _ => .error (openRouterApiError "OpenRouter returned an unexpected rerank response.")

/-- `payload.get(name, default)`. -/
def fieldOr (payload : List (String × Json)) (name : String) (default : Json) : Json :=
  (payload.lookup name).getD default

def invalidResult : Exn :=
  openRouterApiError "OpenRouter rerank response contained an invalid result."

/-- The body of the loop over the results. -/
def readResult (count : Nat) (seen : List Int) : Json → Except Exn (RerankResult Score)
  | .object item =>
      let score := fieldOr item "relevance_score" (fieldOr item "score" .null)
      match asInt? (fieldOr item "index" .null) with
      | none => .error invalidResult
      | some index =>
          if index < 0 ∨ count ≤ index ∨ index ∈ seen ∨ isReal score = false then
            .error invalidResult
          else do
            let relevanceScore ← transport.float score
            .ok { index, relevanceScore }
  | _ => .error invalidResult

/-- The loop over the results. -/
def readResults (count : Nat) : List Int → List Json → Except Exn (List (RerankResult Score))
  | _, [] => .ok []
  | seen, item :: items => do
      let result ← readResult transport count seen item
      let results ← readResults count (result.index :: seen) items
      .ok (result :: results)

variable [LinearOrder Score]

/-- `results.sort(key=…, reverse=True)`; comparisons with a float that is not a number
are false, so they give no order. -/
def byRelevance (results : List (RerankResult Score)) : List (RerankResult Score) :=
  if results.any fun result => transport.isNan result.relevanceScore then
    (transport.unordered results).val
  else
    results.insertionSort fun first second => second.relevanceScore ≤ first.relevanceScore

/-- `rerank`. -/
def rerank (query : Text) (documents : List Text) (topN : Option Int) :
    Except Exn (List (RerankResult Score)) :=
  let query := strip query
  let documents := documents.map strip
  if query = [] then
    .error (Exn.valueError "A non-empty query is required for reranking.")
  else if documents = [] ∨ [] ∈ documents then
    .error (Exn.valueError "At least one non-empty document is required for reranking.")
  else if topN.any (fun count => count < 1 || (documents.length : Int) < count) then
    .error (Exn.valueError "top_n must be between one and the number of documents.")
  else do
    let payload ← requestRerank transport query documents topN
    match fieldOr payload "data" (fieldOr payload "results" .null) with
    | .list items => do
        let results ← readResults transport documents.length [] items
        if topN.any (fun count => count < (results.length : Int)) then
          .error (openRouterApiError "OpenRouter rerank response exceeded the requested top_n.")
        else .ok (byRelevance transport results)
    | _ => .error (openRouterApiError "OpenRouter rerank response did not contain results.")

/-- The providers with this client for the reranking. -/
def withReranker {Value : Type} (providers : Providers Score Value) : Providers Score Value :=
  { providers with
    rerank := fun query documents count => rerank transport query documents (some count) }

end Client

/-! ## What the client lets through -/

/-- A ranking of some of `count` documents: different positions, in descending order of
relevance if all scores are numbers. -/
structure Ranking {Score : Type} [LinearOrder Score] (isNan : Score → Bool) (count : Nat)
    (results : List (RerankResult Score)) : Prop where
  position : ∀ result ∈ results, 0 ≤ result.index ∧ result.index < count
  distinct : (results.map RerankResult.index).Nodup
  descending : (∀ result ∈ results, isNan result.relevanceScore = false) →
    results.Pairwise fun first second => second.relevanceScore ≤ first.relevanceScore

section Client

variable {Score : Type} {transport : RerankTransport Score} {count : Nat} {seen : List Int}

theorem readResult_ok {item : Json} {result : RerankResult Score}
    (read : readResult transport count seen item = .ok result) :
    0 ≤ result.index ∧ result.index < count ∧ result.index ∉ seen := by
  cases item with
  | object fields =>
      simp only [readResult] at read
      cases position : asInt? (fieldOr fields "index" .null) with
      | none =>
          rw [position] at read
          cases read
      | some index =>
          simp only [position] at read
          split_ifs at read with refused
          push Not at refused
          cases score : transport.float
              (fieldOr fields "relevance_score" (fieldOr fields "score" .null)) with
          | error error =>
              simp only [score] at read
              cases read
          | ok relevanceScore =>
              simp only [score] at read
              cases read
              exact ⟨refused.1, refused.2.1, refused.2.2.1⟩
  | null | bool | int | float | text | list => cases read

variable {results : List (RerankResult Score)}

/-- The positions that are read are different from each other and from those seen before. -/
theorem readResults_ok {items : List Json}
    (read : readResults transport count seen items = .ok results) :
    (∀ result ∈ results, 0 ≤ result.index ∧ result.index < count ∧ result.index ∉ seen) ∧
      (results.map RerankResult.index).Nodup := by
  induction items generalizing seen results with
  | nil =>
      cases read
      simp
  | cons item items induction =>
      rw [readResults] at read
      cases first : readResult transport count seen item with
      | error error =>
          rw [first] at read
          cases read
      | ok result =>
          cases rest : readResults transport count (result.index :: seen) items with
          | error error =>
              simp only [first, rest, bind, Except.bind] at read
              cases read
          | ok later =>
              simp only [first, rest, bind, Except.bind] at read
              cases read
              have here := readResult_ok first
              obtain ⟨inside, distinct⟩ := induction rest
              constructor
              · intro other member
                rcases List.mem_cons.mp member with rfl | behind
                · exact here
                · obtain ⟨low, high, fresh⟩ := inside other behind
                  exact ⟨low, high, fun old => fresh (List.mem_cons_of_mem _ old)⟩
              · rw [List.map_cons, List.nodup_cons]
                refine ⟨?_, distinct⟩
                intro repeated
                obtain ⟨other, behind, same⟩ := List.mem_map.mp repeated
                exact (inside other behind).2.2 (by simp [same])

variable [LinearOrder Score]

theorem perm_byRelevance (results : List (RerankResult Score)) :
    (byRelevance transport results).Perm results := by
  rw [byRelevance]
  split_ifs with undefined
  · exact (transport.unordered results).property
  · exact List.perm_insertionSort _ results

theorem descending_byRelevance
    (numbers : ∀ result ∈ results, transport.isNan result.relevanceScore = false) :
    (byRelevance transport results).Pairwise fun first second =>
      second.relevanceScore ≤ first.relevanceScore := by
  rw [byRelevance, if_neg (by simpa using numbers)]
  have total : Std.Total fun first second : RerankResult Score =>
      second.relevanceScore ≤ first.relevanceScore :=
    ⟨fun first second => le_total second.relevanceScore first.relevanceScore⟩
  have transitive : IsTrans (RerankResult Score) fun first second =>
      second.relevanceScore ≤ first.relevanceScore :=
    ⟨fun _ _ _ first second => second.trans first⟩
  exact List.pairwise_insertionSort _ results

/-- Whatever the provider answers, `rerank` raises or returns a ranking of the documents
that is no longer than asked for. -/
theorem rerank_ok {query : Text} {documents : List Text} {topN : Option Int}
    (returned : rerank transport query documents topN = .ok results) :
    Ranking transport.isNan documents.length results ∧
      ∀ limit ∈ topN, (results.length : Int) ≤ limit := by
  rw [rerank] at returned
  split_ifs at returned
  cases requested : requestRerank transport (strip query) (documents.map strip) topN with
  | error error =>
      rw [requested] at returned
      cases returned
  | ok payload =>
      simp only [requested, bind, Except.bind] at returned
      cases found : fieldOr payload "data" (fieldOr payload "results" .null) with
      | list items =>
          simp only [found] at returned
          cases read : readResults transport (documents.map strip).length [] items with
          | error error =>
              rw [read] at returned
              cases returned
          | ok unsorted =>
              simp only [read] at returned
              split_ifs at returned with exceeded
              cases returned
              obtain ⟨inside, distinct⟩ := readResults_ok read
              have perm := @perm_byRelevance _ transport _ unsorted
              refine ⟨⟨?_, ?_, ?_⟩, ?_⟩
              · intro result member
                obtain ⟨low, high, _⟩ := inside result (perm.mem_iff.mp member)
                rw [List.length_map] at high
                exact ⟨low, high⟩
              · exact (perm.map RerankResult.index).nodup_iff.mpr distinct
              · intro numbers
                exact descending_byRelevance fun result member =>
                  numbers result (perm.mem_iff.mpr member)
              · rintro limit ⟨⟩
                rw [perm.length_eq]
                simpa using exceeded
      | null | bool | int | float | text | object =>
          simp only [found] at returned
          cases returned

end Client

/-! ## The hits of a search -/

section Hits

variable {Score : Type} [LinearOrder Score] {scores : SearchScores Score}
  {database : Database Score} {search : Search Score} {sqlite : Bool}

theorem bestHits_distinct {hits : List (SearchHit Score)}
    (distinct : (hits.map fun hit => hit.chunk.id).Nodup) (limit : Int) :
    ((bestHits limit hits).map fun hit => hit.chunk.id).Nodup := by
  rw [bestHits, List.map_take]
  apply (List.take_sublist _ _).nodup
  exact ((List.perm_insertionSort _ hits).map _).nodup_iff.mpr distinct

/-- A search returns no chunk twice. -/
theorem hits_distinct :
    ((hitsOf scores sqlite database search).map fun hit => hit.chunk.id).Nodup := by
  cases sqlite with
  | true =>
      apply bestHits_distinct
      rw [List.map_map]
      exact (byId _).keys_nodup
  | false =>
      apply bestHits_distinct
      rw [List.map_map]
      exact (List.filter_sublist.map _).nodup database.chunks.keys_nodup

end Hits

/-! ## The retriever -/

section Retriever

variable {Score : Type} [LinearOrder Score] {Value : Type}
  {providers : Providers Score Value} {transport : RerankTransport Score}
  {database : Database Score} {sqlite : Bool} {query : RetrievalQuery}

/-- The search of a retrieval. -/
def searchOf (query : RetrievalQuery) (vector : List Score) : Search Score where
  workspaceId := query.workspaceId
  queryText := query.text
  queryEmbedding := vector
  contractId := query.contractId
  limit := query.candidateLimit
  candidatePool := max query.candidateLimit 60

variable (providers transport database query) in
/-- What a retrieval may return of the hits of its search. -/
structure Served (hits : List (SearchHit Score)) (chunks : List (RetrievedChunk Score)) :
    Prop where
  /-- every chunk is that of a hit in the scope of the query -/
  chosen : ∀ chunk ∈ chunks, ∃ hit ∈ hits,
    hit.chunk ∈ joined database query.workspaceId query.contractId ∧
      chunk = retrievedChunk providers chunk.rerankScore hit
  distinct : (chunks.map fun chunk => chunk.chunk.id).Nodup
  short : (chunks.length : Int) ≤ query.limit
  /-- they are the first hits, or all of them are reranked, by scores that are numbers -/
  ordered : chunks = (hits.take query.limit.toNat).map (retrievedChunk providers none) ∨
    (∀ chunk ∈ chunks, chunk.rerankScore.isSome) ∧
      ((∀ chunk ∈ chunks, ∀ score ∈ chunk.rerankScore, transport.isNan score = false) →
        chunks.Pairwise fun first second => ∀ score ∈ first.rerankScore,
          ∀ score' ∈ second.rerankScore, score' ≤ score)

theorem itemAt_of_position {Item : Type} {items : List Item} {index : Int}
    (low : 0 ≤ index) (high : index < items.length) :
    ∃ item, items[index.toNat]? = some item ∧ itemAt items index = .ok item := by
  have bound : index.toNat < items.length := by omega
  refine ⟨items[index.toNat], List.getElem?_eq_getElem bound, ?_⟩
  have nonneg : ¬ index < 0 := by omega
  simp only [itemAt, nonneg, if_false, List.getElem?_eq_getElem bound]

variable {hits : List (SearchHit Score)} {results : List (RerankResult Score)}

/-- The chunks that the results pick from the hits. -/
def Picked (providers : Providers Score Value) (hits : List (SearchHit Score))
    (results : List (RerankResult Score)) (chunks : List (RetrievedChunk Score)) : Prop :=
  List.Forall₂ (fun result chunk => ∃ hit, hits[result.index.toNat]? = some hit ∧
    chunk = retrievedChunk providers (some result.relevanceScore) hit) results chunks

/-- The hits of a ranking can be picked. -/
theorem exists_picked (ranking : Ranking transport.isNan hits.length results) :
    ∃ chunks, Picked providers hits results chunks ∧
      (results.mapM fun result => do
        let hit ← itemAt hits result.index
        .ok (retrievedChunk providers (some result.relevanceScore) hit)) = .ok chunks := by
  have inside := ranking.position
  clear ranking
  induction results with
  | nil => exact ⟨[], .nil, rfl⟩
  | cons result results induction =>
      obtain ⟨low, high⟩ := inside result List.mem_cons_self
      obtain ⟨hit, there, found⟩ := itemAt_of_position low high
      obtain ⟨chunks, picks, mapped⟩ := induction fun other member =>
        inside other (List.mem_cons_of_mem _ member)
      refine ⟨_, .cons ⟨hit, there, rfl⟩ picks, ?_⟩
      rw [List.mapM_cons, found, mapped]
      rfl

section Picked

variable {chunks : List (RetrievedChunk Score)}

theorem Picked.scores (picked : Picked providers hits results chunks) :
    chunks.map RetrievedChunk.rerankScore =
      results.map fun result => some result.relevanceScore := by
  induction picked with
  | nil => rfl
  | cons first later induction =>
      obtain ⟨hit, there, rfl⟩ := first
      rw [List.map_cons, List.map_cons, induction]
      rfl

theorem Picked.ids (picked : Picked providers hits results chunks) :
    chunks.map (fun chunk => some chunk.chunk.id) =
      results.map fun result => (hits.map fun hit => hit.chunk.id)[result.index.toNat]? := by
  induction picked with
  | nil => rfl
  | cons first later induction =>
      obtain ⟨hit, there, rfl⟩ := first
      rw [List.map_cons, List.map_cons, induction, List.getElem?_map, there]
      rfl

theorem Picked.chosen (picked : Picked providers hits results chunks) :
    ∀ chunk ∈ chunks, ∃ hit ∈ hits, chunk = retrievedChunk providers chunk.rerankScore hit := by
  induction picked with
  | nil =>
      intro chunk member
      cases member
  | cons first later induction =>
      obtain ⟨hit, there, rfl⟩ := first
      intro chunk member
      rcases List.mem_cons.mp member with rfl | behind
      · exact ⟨hit, List.mem_of_getElem? there, rfl⟩
      · exact induction chunk behind

/-- Different positions are different chunks. -/
theorem Picked.distinct (picked : Picked providers hits results chunks)
    (ranking : Ranking transport.isNan hits.length results)
    (distinct : (hits.map fun hit => hit.chunk.id).Nodup) :
    (chunks.map fun chunk => chunk.chunk.id).Nodup := by
  have named : (chunks.map fun chunk => some chunk.chunk.id).Nodup := by
    rw [picked.ids]
    apply List.Nodup.map_on _ ranking.distinct.of_map
    intro first member second member' same
    obtain ⟨low, high⟩ := ranking.position first member
    obtain ⟨low', high'⟩ := ranking.position second member'
    have bound : first.index.toNat < (hits.map fun hit => hit.chunk.id).length := by
      rw [List.length_map]
      omega
    have position := (List.getElem?_inj bound distinct).mp same
    exact List.inj_on_of_nodup_map ranking.distinct member member' (by omega)
  have split : (chunks.map fun chunk => some chunk.chunk.id) =
      (chunks.map fun chunk => chunk.chunk.id).map some := by
    rw [List.map_map]
    rfl
  rw [split] at named
  exact named.of_map

theorem Picked.descending (picked : Picked providers hits results chunks)
    (ranking : Ranking transport.isNan hits.length results) :
    (∀ chunk ∈ chunks, chunk.rerankScore.isSome) ∧
      ((∀ chunk ∈ chunks, ∀ score ∈ chunk.rerankScore, transport.isNan score = false) →
        chunks.Pairwise fun first second => ∀ score ∈ first.rerankScore,
          ∀ score' ∈ second.rerankScore, score' ≤ score) := by
  constructor
  · intro chunk member
    have scored : chunk.rerankScore ∈ chunks.map RetrievedChunk.rerankScore :=
      List.mem_map_of_mem member
    rw [picked.scores] at scored
    obtain ⟨result, _, same⟩ := List.mem_map.mp scored
    rw [← same]
    rfl
  · intro numbers
    have scored : ∀ result ∈ results, transport.isNan result.relevanceScore = false := by
      intro result member
      have shown : some result.relevanceScore ∈ chunks.map RetrievedChunk.rerankScore := by
        rw [picked.scores]
        exact List.mem_map_of_mem member
      obtain ⟨chunk, inChunks, same⟩ := List.mem_map.mp shown
      exact numbers chunk inChunks _ same
    have ordered : (chunks.map RetrievedChunk.rerankScore).Pairwise fun first second =>
        ∀ score ∈ first, ∀ score' ∈ second, score' ≤ score := by
      rw [picked.scores, List.pairwise_map]
      apply (ranking.descending scored).imp
      rintro first second less score ⟨⟩ score' ⟨⟩
      exact less
    exact List.pairwise_map.mp ordered

end Picked

variable (providers transport) in
theorem served_of_first (limited : 0 ≤ query.limit)
    (distinct : (hits.map fun hit => hit.chunk.id).Nodup)
    (within : ∀ hit ∈ hits, hit.chunk ∈ joined database query.workspaceId query.contractId) :
    Served providers transport database query hits
      ((hits.take query.limit.toNat).map (retrievedChunk providers none)) where
  chosen chunk member := by
    obtain ⟨hit, taken, rfl⟩ := List.mem_map.mp member
    have found := List.mem_of_mem_take taken
    exact ⟨hit, found, within hit found, rfl⟩
  distinct := by
    rw [List.map_map]
    exact ((List.take_sublist _ hits).map _).nodup distinct
  short := by
    rw [List.length_map, List.length_take]
    omega
  ordered := .inl rfl

theorem served_of_picked {chunks : List (RetrievedChunk Score)}
    (picked : Picked providers hits results chunks)
    (ranking : Ranking transport.isNan hits.length results)
    (short : (results.length : Int) ≤ query.limit)
    (distinct : (hits.map fun hit => hit.chunk.id).Nodup)
    (within : ∀ hit ∈ hits, hit.chunk ∈ joined database query.workspaceId query.contractId) :
    Served providers transport database query hits chunks where
  chosen chunk member := by
    obtain ⟨hit, found, same⟩ := picked.chosen chunk member
    exact ⟨hit, found, within hit found, same⟩
  distinct := picked.distinct ranking distinct
  short := by
    rw [← List.Forall₂.length_eq picked]
    exact short
  ordered := .inr (picked.descending ranking)

variable (providers transport query) in
/-- The part of `retrieve` behind its search. -/
def rerankHits (hits : List (SearchHit Score)) : Except Exn (List (RetrievedChunk Score)) :=
  if hits = [] then .ok []
  else do
    let reranked ← rerank transport query.text (hits.map fun hit => hit.chunk.content)
      (some (min query.limit hits.length))
    if reranked = [] then
      .ok ((hits.take query.limit.toNat).map (retrievedChunk providers none))
    else
      reranked.mapM fun result => do
        let hit ← itemAt hits result.index
        .ok (retrievedChunk providers (some result.relevanceScore) hit)

variable (providers transport) in
/-- What comes of a hit list: the chunks that the query is served, or what the reranking
raises. -/
theorem rerankHits_cases (limited : 0 ≤ query.limit)
    (distinct : (hits.map fun hit => hit.chunk.id).Nodup)
    (within : ∀ hit ∈ hits, hit.chunk ∈ joined database query.workspaceId query.contractId) :
    (∃ chunks, rerankHits providers transport query hits = .ok chunks ∧
      Served providers transport database query hits chunks) ∨
    ∃ error, rerankHits providers transport query hits = .error error ∧
      rerank transport query.text (hits.map fun hit => hit.chunk.content)
        (some (min query.limit hits.length)) = .error error := by
  have first := served_of_first providers transport limited distinct within
  rw [rerankHits]
  by_cases none_ : hits = []
  · subst none_
    exact .inl ⟨[], rfl, by simpa using first⟩
  · rw [if_neg none_]
    cases reranked : rerank transport query.text (hits.map fun hit => hit.chunk.content)
        (some (min query.limit hits.length)) with
    | error error => exact .inr ⟨error, rfl, rfl⟩
    | ok results =>
        left
        obtain ⟨ranking, bounded⟩ := rerank_ok reranked
        rw [List.length_map] at ranking
        have short := (bounded _ rfl).trans (min_le_left _ _)
        by_cases unranked : results = []
        · subst unranked
          exact ⟨_, rfl, first⟩
        · obtain ⟨chunks, picked, mapped⟩ := exists_picked ranking
          refine ⟨chunks, ?_, served_of_picked picked ranking short distinct within⟩
          exact (if_neg unranked).trans mapped

end Retriever

/-! ## `DatabaseHybridRetriever.retrieve` -/

/-- A `RetrievalQuery` as its caller makes it, with any filters. -/
structure FilteredQuery where
  workspaceId : String
  text : Text
  limit : Int
  candidateLimit : Int
  filters : List (String × Json)

namespace FilteredQuery

variable (query : FilteredQuery)

/-- The query with the filter that has been read. -/
def inContract (contractId : Option String) : RetrievalQuery where
  workspaceId := query.workspaceId
  text := query.text
  limit := query.limit
  candidateLimit := query.candidateLimit
  contractId := contractId

/-- `RetrievalQuery.__post_init__`, which does not look at the filters. -/
def checked : Except Exn FilteredQuery :=
  (query.inContract none).checked.map fun _ => query

/-- `query.filters.get("contract_id")`. -/
def contractFilter : Except Exn (Option String) :=
  match query.filters.lookup "contract_id" with
  | none | some .null => .ok none
  | some (.text contractId) => .ok (some contractId)
  | some _ => .error (Exn.valueError "contract_id retrieval filter must be a string")

theorem limit_nonneg (valid : query.checked = .ok query) : 0 ≤ query.limit := by
  rw [checked, RetrievalQuery.checked] at valid
  split_ifs at valid with blank low
  · cases valid
  · cases valid
  · have positive : ¬ query.limit < 1 := by
      intro below
      exact low (by simp [inContract, below])
    omega

end FilteredQuery

section Filtered

variable {Score : Type} [LinearOrder Score] {Value : Type}
  (providers : Providers Score Value) (transport : RerankTransport Score)
  (sqlite : Bool) (database : Database Score)

/-- `retrieve` with this client for the reranking. -/
def retrieve (query : FilteredQuery) : Except Exn (List (RetrievedChunk Score)) := do
  let vector ← providers.embedDocument query.text
  let contractId ← query.contractFilter
  let hits ← hybridSearch providers.scores sqlite database
    (searchOf (query.inContract contractId) vector)
  rerankHits providers transport (query.inContract contractId) hits

variable {query : FilteredQuery}

/-- With a filter that is a string this is what the tools call. -/
theorem retrieve_eq {contractId : Option String}
    (filter : query.contractFilter = .ok contractId) :
    retrieve providers transport sqlite database query =
      ChatTools.retrieve (withReranker transport providers) sqlite database
        (query.inContract contractId) := by
  rw [retrieve, filter]
  rfl

/-- What comes of the search behind a filter that has been read. -/
theorem searched_cases (valid : query.checked = .ok query) (contractId : Option String)
    (vector : List Score) :
    (∃ hits chunks,
      hybridSearch providers.scores sqlite database
          (searchOf (query.inContract contractId) vector) = .ok hits ∧
        rerankHits providers transport (query.inContract contractId) hits = .ok chunks ∧
        Served providers transport database (query.inContract contractId) hits chunks) ∨
    (∃ error, hybridSearch providers.scores sqlite database
      (searchOf (query.inContract contractId) vector) = .error error) ∨
    ∃ hits error,
      hybridSearch providers.scores sqlite database
          (searchOf (query.inContract contractId) vector) = .ok hits ∧
        rerankHits providers transport (query.inContract contractId) hits = .error error ∧
        rerank transport query.text (hits.map fun hit => hit.chunk.content)
          (some (min query.limit hits.length)) = .error error := by
  cases found : hybridSearch providers.scores sqlite database
      (searchOf (query.inContract contractId) vector) with
  | error raised => exact .inr (.inl ⟨raised, rfl⟩)
  | ok hits =>
      have distinct : (hits.map fun hit => hit.chunk.id).Nodup := by
        rw [hybridSearch_ok found]
        exact hits_distinct
      have limited : 0 ≤ (query.inContract contractId).limit := query.limit_nonneg valid
      have within : ∀ hit ∈ hits, hit.chunk ∈ joined database
          (query.inContract contractId).workspaceId
          (query.inContract contractId).contractId := by
        intro hit member
        rw [hybridSearch_ok found] at member
        exact joined_of_hit member
      rcases rerankHits_cases providers transport limited distinct within with
        ⟨chunks, reranked, served⟩ | ⟨error, reranked, raised⟩
      · exact .inl ⟨hits, chunks, rfl, reranked, served⟩
      · exact .inr (.inr ⟨hits, error, rfl, reranked, raised⟩)

/-- Whatever the provider of the reranking answers, a retrieval returns different chunks of
its search, no more than the query asks for and in one order of relevance, or it raises what
the embedding, the search or the reranking has raised, or that its filter is no string. -/
theorem retrieve_reranked (valid : query.checked = .ok query) :
    (∀ chunks, retrieve providers transport sqlite database query = .ok chunks →
      ∃ vector contractId hits, providers.embedDocument query.text = .ok vector ∧
        query.contractFilter = .ok contractId ∧
        hybridSearch providers.scores sqlite database
          (searchOf (query.inContract contractId) vector) = .ok hits ∧
        Served providers transport database (query.inContract contractId) hits chunks) ∧
    ∀ error, retrieve providers transport sqlite database query = .error error →
      providers.embedDocument query.text = .error error ∨
      ∃ vector, providers.embedDocument query.text = .ok vector ∧
        (query.contractFilter = .error error ∨
        ∃ contractId, query.contractFilter = .ok contractId ∧
          (hybridSearch providers.scores sqlite database
            (searchOf (query.inContract contractId) vector) = .error error ∨
          ∃ hits,
            hybridSearch providers.scores sqlite database
                (searchOf (query.inContract contractId) vector) = .ok hits ∧
              rerank transport query.text (hits.map fun hit => hit.chunk.content)
                (some (min query.limit hits.length)) = .error error)) := by
  rw [retrieve]
  cases embedded : providers.embedDocument query.text with
  | error raised =>
      constructor
      · intro chunks returned
        cases returned
      · intro error same
        cases same
        exact .inl rfl
  | ok vector =>
      cases filter : query.contractFilter with
      | error raised =>
          constructor
          · intro chunks returned
            cases returned
          · intro error same
            cases same
            exact .inr ⟨vector, rfl, .inl rfl⟩
      | ok contractId =>
          change (∀ chunks, (hybridSearch _ _ _ _ >>= _) = Except.ok chunks → _) ∧
            ∀ error, (hybridSearch _ _ _ _ >>= _) = Except.error error → _
          rcases searched_cases providers transport sqlite database valid contractId vector
            with ⟨hits, chunks, found, reranked, served⟩ | ⟨raised, found⟩ |
              ⟨hits, raised, found, reranked, refused⟩
          · rw [found]
            change (∀ chunks, rerankHits _ _ _ _ = Except.ok chunks → _) ∧
              ∀ error, rerankHits _ _ _ _ = Except.error error → _
            rw [reranked]
            constructor
            · intro chunks' returned
              cases returned
              exact ⟨vector, contractId, hits, rfl, rfl, found, served⟩
            · intro error raised
              cases raised
          · rw [found]
            constructor
            · intro chunks returned
              cases returned
            · intro error same
              cases same
              exact .inr ⟨vector, rfl, .inr ⟨contractId, rfl, .inl found⟩⟩
          · rw [found]
            change (∀ chunks, rerankHits _ _ _ _ = Except.ok chunks → _) ∧
              ∀ error, rerankHits _ _ _ _ = Except.error error → _
            rw [reranked]
            constructor
            · intro chunks returned
              cases returned
            · intro error same
              cases same
              exact .inr ⟨vector, rfl, .inr ⟨contractId, rfl, .inr ⟨hits, found, refused⟩⟩⟩

end Filtered

/-! ## Two chunks -/

/-- A version with two chunks. -/
def sampleChunks : Database Nat :=
  (replaceIndex sampleScores.toChunkTests sampleContract "index" (sampleSpec "small")
    (fun position => if position = 0 then "first" else "second")
    [sampleChunk, { sampleChunk with ordinal := 1, content := "It ends in June.".toList }]).2

def sampleQuery : FilteredQuery where
  workspaceId := "workspace"
  text := sampleSearch.queryText
  limit := 8
  candidateLimit := 30
  filters := []

/-- A provider that finds the second document more relevant; every score is a number. -/
def sampleTransport : RerankTransport Nat where
  post _ _ _ := .ok (.object [("results", .list [
    .object [("index", .int 0), ("score", .int 5)],
    .object [("index", .int 1), ("relevance_score", .int 9)]])])
  float
    | .int score => .ok score.toNat
    | _ => .error (Exn.valueError "float")
  isNan _ := false
  unordered results := ⟨results, .refl results⟩

theorem retrieve_reranked_sample :
    ∃ chunks, retrieve sampleProviders sampleTransport true sampleChunks sampleQuery =
        .ok chunks ∧
      (chunks.map fun chunk => (chunk.chunk.id, chunk.rerankScore)) =
        [("second", some 9), ("first", some 5)] ∧
      ∃ vector contractId hits,
        sampleProviders.embedDocument sampleQuery.text = .ok vector ∧
        sampleQuery.contractFilter = .ok contractId ∧
        hybridSearch sampleProviders.scores true sampleChunks
          (searchOf (sampleQuery.inContract contractId) vector) = .ok hits ∧
        Served sampleProviders sampleTransport sampleChunks (sampleQuery.inContract contractId)
          hits chunks := by
  have found : ((retrieve sampleProviders sampleTransport true sampleChunks
      sampleQuery).toOption.map fun chunks => chunks.map fun chunk =>
        (chunk.chunk.id, chunk.rerankScore)) =
      some [("second", some 9), ("first", some 5)] := by
    decide +kernel
  obtain ⟨chunks, returned, shown⟩ := Option.map_eq_some_iff.mp found
  have same : retrieve sampleProviders sampleTransport true sampleChunks sampleQuery =
      .ok chunks := by
    cases result : retrieve sampleProviders sampleTransport true sampleChunks sampleQuery with
    | error error =>
        rw [result] at returned
        cases returned
    | ok other =>
        rw [result] at returned
        cases returned
        rfl
  exact ⟨chunks, same, shown,
    (retrieve_reranked sampleProviders sampleTransport true sampleChunks rfl).1 chunks same⟩

/-- A filter that is no string is refused. -/
example : (retrieve sampleProviders sampleTransport true sampleChunks
    { sampleQuery with filters := [("contract_id", .int 5)] }).isOk = false :=
  rfl

end Reranking

end ContractMate
