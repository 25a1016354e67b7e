import ContractMate.HybridSearch

/-!
# Searched indexes

A search joins the chunks of every ready index of a current version, whatever model its
embeddings come from.  It compares like with like exactly while each current version is
served by one index, and that of the query's model.
-/

namespace ContractMate

namespace HybridSearch

open KnowledgeBase PythonText RunHistory

section Served

variable {Score : Type} (database : Database Score) (workspaceId : String)
  (contractId : Option String)

/-- The index is ready, of a current version in scope, and has chunks. -/
def searchable (index : IndexRow) : Bool :=
  index.workspaceId = workspaceId && inScope contractId index.contractId &&
    index.status = .ready &&
      currentVersion database index.workspaceId index.contractId index.contractVersionId &&
        database.chunks.rows.any fun chunk => chunk.knowledgeIndexId = index.id

/-- Each current version in scope is served by one index, one of the model. -/
structure Served (model : String) : Prop where
  model : ∀ index ∈ database.indexes.rows,
    searchable database workspaceId contractId index = true → index.embeddingModel = model
  single : ∀ first ∈ database.indexes.rows, ∀ second ∈ database.indexes.rows,
    searchable database workspaceId contractId first = true →
      searchable database workspaceId contractId second = true →
        first.contractVersionId = second.contractVersionId → first = second

/-- Every chunk that is scored is of an index of the model, and the hits of a version
are of one index. -/
structure LikeWithLike (model : String) (hits : List (SearchHit Score)) : Prop where
  model : ∀ chunk ∈ joined database workspaceId contractId,
    ∃ index ∈ database.indexes.rows, index.id = chunk.knowledgeIndexId ∧
      index.embeddingModel = model
  single : ∀ first ∈ hits, ∀ second ∈ hits,
    first.chunk.contractVersionId = second.chunk.contractVersionId →
      first.chunk.knowledgeIndexId = second.chunk.knowledgeIndexId

end Served

section Indexes

variable {Score : Type} {database : Database Score} {workspaceId : String}
  {contractId : Option String}

/-- A joined chunk is of a searchable index of its version. -/
theorem searchable_of_joined (coherent : Coherent database) {chunk : ChunkRow Score}
    (member : chunk ∈ joined database workspaceId contractId) :
    ∃ index ∈ database.indexes.rows, index.id = chunk.knowledgeIndexId ∧
      index.contractVersionId = chunk.contractVersionId ∧
        searchable database workspaceId contractId index = true := by
  obtain ⟨stored, own, inside, ready, current⟩ := mem_joined.mp member
  rw [readyIndex, List.any_eq_true] at ready
  obtain ⟨index, inIndexes, matched⟩ := ready
  simp only [Bool.and_eq_true, decide_eq_true_eq] at matched
  obtain ⟨⟨named, sameWorkspace⟩, isReady⟩ := matched
  obtain ⟨_, contract, version⟩ := coherent.chunk chunk stored index inIndexes named
  refine ⟨index, inIndexes, named, version, ?_⟩
  simp only [searchable, Bool.and_eq_true, decide_eq_true_eq, List.any_eq_true]
  refine ⟨⟨⟨⟨sameWorkspace.trans own, ?_⟩, isReady⟩, ?_⟩, chunk, stored, named.symm⟩
  · rwa [contract]
  · rwa [sameWorkspace, contract, version]

/-- The chunks of a searchable index are joined. -/
theorem joined_of_searchable (coherent : Coherent database) {index : IndexRow}
    (stored : index ∈ database.indexes.rows)
    (isSearchable : searchable database workspaceId contractId index = true) :
    ∃ chunk ∈ joined database workspaceId contractId, chunk.knowledgeIndexId = index.id ∧
      chunk.contractVersionId = index.contractVersionId := by
  simp only [searchable, Bool.and_eq_true, decide_eq_true_eq,
    List.any_eq_true] at isSearchable
  obtain ⟨⟨⟨⟨own, inside⟩, isReady⟩, current⟩, chunk, inChunks, named⟩ := isSearchable
  obtain ⟨workspace, contract, version⟩ :=
    coherent.chunk chunk inChunks index stored named.symm
  refine ⟨chunk, mem_joined.mpr ⟨inChunks, workspace.symm.trans own, ?_, ?_, ?_⟩, named,
    version.symm⟩
  · rwa [← contract]
  · rw [readyIndex, List.any_eq_true]
    refine ⟨index, stored, ?_⟩
    simp [named, workspace, isReady]
  · rwa [← workspace, ← contract, ← version]

/-- Two rows with one identifier are one. -/
theorem eq_of_id {first second : IndexRow} (stored : first ∈ database.indexes.rows)
    (stored' : second ∈ database.indexes.rows) (same : first.id = second.id) :
    first = second := by
  have here := RowTable.find?_of_mem stored
  rw [same, RowTable.find?_of_mem stored'] at here
  exact (Option.some.inj here).symm

variable {model : String} {hits : List (SearchHit Score)}

theorem likeWithLike_of_served (coherent : Coherent database)
    (found : ∀ hit ∈ hits, hit.chunk ∈ joined database workspaceId contractId)
    (served : Served database workspaceId contractId model) :
    LikeWithLike database workspaceId contractId model hits := by
  constructor
  · intro chunk member
    obtain ⟨index, stored, named, _, isSearchable⟩ := searchable_of_joined coherent member
    exact ⟨index, stored, named, served.model index stored isSearchable⟩
  · intro first inHits second inHits' sameVersion
    obtain ⟨index, stored, named, version, isSearchable⟩ :=
      searchable_of_joined coherent (found first inHits)
    obtain ⟨index', stored', named', version', isSearchable'⟩ :=
      searchable_of_joined coherent (found second inHits')
    have same : index = index' := served.single index stored index' stored' isSearchable
      isSearchable' (version.trans (sameVersion.trans version'.symm))
    rw [← named, ← named', same]

theorem served_of_likeWithLike (coherent : Coherent database)
    (found : ∀ chunk ∈ joined database workspaceId contractId,
      ∃ hit ∈ hits, hit.chunk = chunk)
    (alike : LikeWithLike database workspaceId contractId model hits) :
    Served database workspaceId contractId model := by
  constructor
  · intro index stored isSearchable
    obtain ⟨chunk, member, named, _⟩ := joined_of_searchable coherent stored isSearchable
    obtain ⟨other, stored', named', ofModel⟩ := alike.model chunk member
    rw [eq_of_id stored stored' (named.symm.trans named'.symm)]
    exact ofModel
  · intro first stored second stored' isSearchable isSearchable' sameVersion
    obtain ⟨chunk, member, named, version⟩ :=
      joined_of_searchable coherent stored isSearchable
    obtain ⟨chunk', member', named', version'⟩ :=
      joined_of_searchable coherent stored' isSearchable'
    obtain ⟨hit, inHits, rfl⟩ := found chunk member
    obtain ⟨hit', inHits', rfl⟩ := found chunk' member'
    have same := alike.single hit inHits hit' inHits'
      (version.trans (sameVersion.trans version'.symm))
    exact eq_of_id stored stored' (named.symm.trans (same.trans named'))

/-! ## One configuration -/

/-- All indexes of the run are made for one model and one chunking version. -/
def Configured (steps : List (KnowledgeStep Score)) (model chunking : String) : Prop :=
  ∀ step ∈ steps, ∀ drawn spec, step.action = .insertIndex drawn spec →
    spec.embeddingModel = model ∧ spec.chunkingVersion = chunking

theorem configured_of_run {tests : ChunkTests Score} {steps : List (KnowledgeStep Score)}
    {final : Database Score} (run : KnowledgeRun tests steps final)
    {model chunking : String}
    (configured : Configured steps model chunking) :
    ∀ index ∈ final.indexes.rows,
      index.embeddingModel = model ∧ index.chunkingVersion = chunking := by
  have updated {database : Database Score} {condition : IndexRow → Bool}
      {change : RowTable.Change IndexRow.id}
      (unset : ∀ row, (change.apply row).key = row.key)
      (holds : ∀ index ∈ database.indexes.rows,
        index.embeddingModel = model ∧ index.chunkingVersion = chunking) :
      ∀ index ∈ (database.indexes.updateWhere condition change).rows,
        index.embeddingModel = model ∧ index.chunkingVersion = chunking := by
    intro index member
    obtain ⟨old, inOld, rfl⟩ := List.mem_map.mp member
    have before := holds old inOld
    split
    · have key := unset old
      simp only [IndexRow.key, Prod.mk.injEq] at key
      rw [key.2.2.1, key.2.2.2]
      exact before
    · exact before
  have holds := run.invariant (fun database => ∀ index ∈ database.indexes.rows,
    index.embeddingModel = model ∧ index.chunkingVersion = chunking)
      (by simp [RowTable.empty])
  apply (holds _).1
  rintro ⟨action, before⟩ member _ holds
  change ∀ index ∈ before.indexes.rows, _ at holds
  change ∀ index ∈ (action.apply tests before).indexes.rows, _
  cases action with
  | insertIndex drawn spec =>
      have named := configured _ member drawn spec rfl
      simp only [Action.apply, insertIndex]
      split
      · exact holds
      · intro index inIndexes
        rcases RowTable.mem_insertIgnore inIndexes with old | new
        · exact holds index old
        · rw [new]
          exact named
  | updateProvenance spec indexId => exact updated (fun _ => rfl) holds
  | setStatus workspaceId indexId status errorMessage => exact updated (fun _ => rfl) holds
  | replaceChunks workspaceId indexId drawn chunks =>
      rw [Action.apply]
      split
      · rename_i success
        obtain ⟨_, _, _, prepared, _, _, same⟩ := replaceChunks_ok success
        rw [same]
        exact updated (fun _ => rfl) holds
      · exact holds
  | createContract contractId versionId workspaceId title status now =>
      simp only [Action.apply, insertContract]
      split
      · exact holds
      · exact holds
  | updateContract contractId status now => exact holds
  | saveReview review => exact holds
  | recordEvent event => exact holds
  | delete part workspaceId contractId =>
      cases part with
      | indexes =>
          intro index inIndexes
          exact holds index ((deleteWhere_sublist _ _).subset inIndexes)
      | _ => exact holds

/-- While all indexes are made under one configuration, every search of its model is
served. -/
theorem served_of_one_configuration {tests : ChunkTests Score}
    {steps : List (KnowledgeStep Score)} {final : Database Score}
    (run : KnowledgeRun tests steps final) {model chunking : String}
    (configured : Configured steps model chunking)
    (workspaceId : String) (contractId : Option String) :
    Served final workspaceId contractId model := by
  have known := configured_of_run run configured
  constructor
  · intro index stored _
    exact (known index stored).1
  · intro first stored second stored' isSearchable isSearchable' version
    have keys := (coherent_of_run run).keys
    apply List.inj_on_of_nodup_map keys stored stored'
    simp only [searchable, Bool.and_eq_true, decide_eq_true_eq] at isSearchable isSearchable'
    rw [IndexRow.key, IndexRow.key, isSearchable.1.1.1.1, isSearchable'.1.1.1.1, version,
      (known first stored).1, (known first stored).2, (known second stored').1,
      (known second stored').2]

/-! ## The search -/

/-- A search that compares like with like, and whose limit leaves no chunk out, is
served. -/
theorem served_of_search [LinearOrder Score] {scores : SearchScores Score}
    (coherent : Coherent database) {sqlite : Bool} {search : Search Score}
    (returned : hybridSearch scores sqlite database search = .ok hits)
    (fits : ((joined database search.workspaceId search.contractId).length : Int) ≤
      search.safeLimit)
    (alike : LikeWithLike database search.workspaceId search.contractId model hits) :
    Served database search.workspaceId search.contractId model := by
  apply served_of_likeWithLike coherent _ alike
  intro chunk member
  rw [hybridSearch_ok returned]
  exact hit_of_joined sqlite fits member

/-- Wherever a run of the repositories leads, a search compares like with like if each
current version in scope is served by one index of the query's model, as it is while the
configuration stays the same; and only then, if the limit leaves no chunk out. -/
theorem like_with_like [LinearOrder Score] (scores : SearchScores Score)
    {steps : List (KnowledgeStep Score)} {final : Database Score}
    (run : KnowledgeRun scores.toChunkTests steps final) (sqlite : Bool)
    (search : Search Score) (model : String) {hits : List (SearchHit Score)}
    (returned : hybridSearch scores sqlite final search = .ok hits) :
    (Served final search.workspaceId search.contractId model →
        LikeWithLike final search.workspaceId search.contractId model hits) ∧
      (∀ chunking, Configured steps model chunking →
        LikeWithLike final search.workspaceId search.contractId model hits) ∧
      (((joined final search.workspaceId search.contractId).length : Int) ≤
          search.safeLimit →
        LikeWithLike final search.workspaceId search.contractId model hits →
          Served final search.workspaceId search.contractId model) := by
  have coherent := coherent_of_run run
  have hitsAre := hybridSearch_ok returned
  have alike : Served final search.workspaceId search.contractId model →
      LikeWithLike final search.workspaceId search.contractId model hits := by
    apply likeWithLike_of_served coherent
    intro hit member
    rw [hitsAre] at member
    have here := joined_of_hit member
    exact here
  refine ⟨alike, ?_, ?_⟩
  · intro chunking configured
    exact alike (served_of_one_configuration run configured _ _)
  · exact served_of_search coherent returned

end Indexes

/-! ## A change of the configured model -/

/-- Scores that tell nothing apart. -/
def sampleScores : SearchScores Nat where
  isFinite _ := true
  sha256 content := String.ofList content
  zero := 0
  ofNat := id
  plus := Nat.add
  dividedBy := Nat.div
  cosineSimilarity _ _ := 1
  termOverlap _ _ := 1
  cosineDistance _ _ := 0
  fromDistance distance := 1 - distance
  textMatches _ _ := true
  textRank _ _ := 1

def sampleSpec (model : String) : IndexSpec where
  workspaceId := "workspace"
  contractId := "contract"
  contractVersionId := "version"
  embeddingProvider := "openrouter"
  embeddingModel := model
  rerankerProvider := "openrouter"
  rerankerModel := "rerank"
  chunkingVersion := "page-v1"

def sampleChunk : ChunkInput Nat where
  ordinal := 0
  content := "The fee is due in May.".toList
  embedding := List.replicate 1024 0

def sampleContract : Database Nat :=
  (Action.createContract "contract" "version" "workspace" none "review_ready" 0).apply
    sampleScores.toChunkTests {}

/-- The version, indexed under a model. -/
def sampleIndexed (before : Database Nat) (drawn model : String) : Database Nat :=
  (replaceIndex sampleScores.toChunkTests before drawn (sampleSpec model)
    (fun _ => drawn ++ "-chunk") [sampleChunk]).2

/-- Indexed once. -/
def sampleOnce : Database Nat :=
  sampleIndexed sampleContract "first" "small"

/-- Indexed again, after the configured model has changed. -/
def sampleTwice : Database Nat :=
  sampleIndexed sampleOnce "second" "large"

def sampleSearch : Search Nat where
  workspaceId := "workspace"
  queryText := "When is the fee due?".toList
  queryEmbedding := List.replicate 1024 0

set_option maxRecDepth 10000 in
/-- The second indexing leaves the first index where it is. -/
example : sampleTwice.indexes.rows.map (·.embeddingModel) = ["small", "large"] := by
  decide

theorem returns_sampleSearch (sqlite : Bool) (database : Database Nat) :
    hybridSearch sampleScores sqlite database sampleSearch =
      .ok (hitsOf sampleScores sqlite database sampleSearch) := by
  have valid : validateEmbedding sampleScores.toChunkTests sampleSearch.queryEmbedding =
      .ok sampleSearch.queryEmbedding := by
    have finite : ¬ (!sampleSearch.queryEmbedding.all sampleScores.isFinite) = true := by
      simp [sampleScores]
    have length : ¬ sampleSearch.queryEmbedding.length ≠ embeddingDimensions :=
      not_not.mpr List.length_replicate
    rw [validateEmbedding, if_neg length, if_neg finite]
  have stripped : strip sampleSearch.queryText = sampleSearch.queryText := by
    decide
  have asked : sampleSearch.queryText ≠ [] := by decide
  rw [hybridSearch, valid, stripped]
  simp only [bind, Except.bind, if_neg asked]

theorem leads_sampleOnce :
    Leads sampleScores.toChunkTests {} sampleOnce := by
  have created : Leads sampleScores.toChunkTests {} sampleContract := by
    have fresh : (Action.createContract "contract" "version" "workspace" none
        "review_ready" 0).Fresh ({} : Database Nat) := by
      intro contract member
      cases member
    exact leads_apply fresh
  apply created.trans
  apply leads_replaceIndex
  decide

set_option maxRecDepth 10000 in
theorem leads_sampleTwice : Leads sampleScores.toChunkTests {} sampleTwice := by
  apply leads_sampleOnce.trans
  apply leads_replaceIndex
  decide

set_option maxRecDepth 10000 in
/-- Indexed once, the version is found through one index. -/
theorem like_with_like_sample :
    ∃ steps, KnowledgeRun sampleScores.toChunkTests steps sampleOnce ∧
      LikeWithLike sampleOnce "workspace" none "small"
        (hitsOf sampleScores true sampleOnce sampleSearch) := by
  obtain ⟨steps, run⟩ := leads_sampleOnce [] .nil
  have served : Served sampleOnce "workspace" none "small" :=
    ⟨by decide, by decide⟩
  exact ⟨_, run, (like_with_like sampleScores run true sampleSearch "small"
    (returns_sampleSearch true sampleOnce)).1 served⟩

set_option maxRecDepth 10000 in
/-- The old index is never retired: its chunks are scored against the new model's query,
and the version is found twice. -/
theorem old_index_searched :
    ¬ ∀ (steps : List (KnowledgeStep Nat)) (final : Database Nat),
      KnowledgeRun sampleScores.toChunkTests steps final →
      ∀ (sqlite : Bool) (search : Search Nat) (model : String) (hits : List (SearchHit Nat)),
        hybridSearch sampleScores sqlite final search = .ok hits →
          LikeWithLike final search.workspaceId search.contractId model hits := by
  intro claimed
  obtain ⟨steps, run⟩ := leads_sampleTwice [] .nil
  have returned := returns_sampleSearch true sampleTwice
  have alike := claimed _ _ run true sampleSearch "large" _ returned
  have fits : ((joined sampleTwice sampleSearch.workspaceId
      sampleSearch.contractId).length : Int) ≤ sampleSearch.safeLimit := by decide
  have served := served_of_search (coherent_of_run run) returned fits alike
  have unlike : ∃ index ∈ sampleTwice.indexes.rows,
      searchable sampleTwice "workspace" none index = true ∧
        index.embeddingModel ≠ "large" := by decide
  obtain ⟨index, stored, isSearchable, other⟩ := unlike
  exact other (served.model index stored isSearchable)

end HybridSearch

end ContractMate
