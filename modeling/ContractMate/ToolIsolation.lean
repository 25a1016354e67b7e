import ContractMate.ChatTools
import ContractMate.SearchedIndexes

/-!
# Isolation of the chat tools

Two states of the tables which agree on the rows of a workspace, or of one contract of
it, give the same answers to a conversation there.
-/

namespace ContractMate

namespace ChatTools

open ChatEvidence HybridSearch KnowledgeBase PythonText

/-! ## Agreement -/

section Agreement

variable {Score : Type} (workspaceId : String) (contractId : Option String)

def ownContract (row : KnowledgeBase.ContractRow) : Bool :=
  row.workspaceId = workspaceId && inScope contractId row.id

/-- A version of a contract in scope. -/
def ownVersion (database : Database Score) (row : VersionRow) : Bool :=
  database.contracts.rows.any fun contract =>
    ownContract workspaceId contractId contract && contract.id = row.contractId

/-- The review of such a version. -/
def ownReview (database : Database Score) (row : ReviewRow) : Bool :=
  database.versions.rows.any fun version =>
    ownVersion workspaceId contractId database version &&
      version.id = row.contractVersionId

def ownIndex (row : IndexRow) : Bool :=
  row.workspaceId = workspaceId && inScope contractId row.contractId

def ownChunk (row : ChunkRow Score) : Bool :=
  row.workspaceId = workspaceId && inScope contractId row.contractId

def ownEvent (row : KnowledgeBase.AuditEventRow) : Bool :=
  row.workspaceId = workspaceId && row.contractId.any (inScope contractId)

/-- The databases have the same rows of the workspace and, if there is a scope, of its
contract. -/
structure Agree (first second : Database Score) : Prop where
  contracts : AgreeOn (ownContract workspaceId contractId) first.contracts.rows
    second.contracts.rows
  versions : first.versions.rows.filter (ownVersion workspaceId contractId first) =
    second.versions.rows.filter (ownVersion workspaceId contractId second)
  reviews : first.reviews.rows.filter (ownReview workspaceId contractId first) =
    second.reviews.rows.filter (ownReview workspaceId contractId second)
  indexes : AgreeOn (ownIndex workspaceId contractId) first.indexes.rows second.indexes.rows
  chunks : AgreeOn (ownChunk workspaceId contractId) first.chunks.rows second.chunks.rows
  auditEvents : AgreeOn (ownEvent workspaceId contractId) first.auditEvents.rows
    second.auditEvents.rows

end Agreement

section Isolation

variable {Score : Type} {workspaceId : String} {contractId : Option String}
  {first second : Database Score}

namespace Agree

theorem ownVersion_eq (agree : Agree workspaceId contractId first second) :
    ownVersion workspaceId contractId first = ownVersion workspaceId contractId second := by
  funext row
  apply agree.contracts.any_eq
  · intro contract _ matched
    exact (Bool.and_eq_true _ _ ▸ matched).1
  · intro contract _ matched
    exact (Bool.and_eq_true _ _ ▸ matched).1

theorem agreeOn_versions (agree : Agree workspaceId contractId first second) :
    AgreeOn (ownVersion workspaceId contractId first) first.versions.rows
      second.versions.rows := by
  rw [AgreeOn, agree.versions, agree.ownVersion_eq]

theorem ownReview_eq (agree : Agree workspaceId contractId first second) :
    ownReview workspaceId contractId first = ownReview workspaceId contractId second := by
  funext row
  unfold ownReview
  rw [← agree.ownVersion_eq]
  apply agree.agreeOn_versions.any_eq
  · intro version _ matched
    exact (Bool.and_eq_true _ _ ▸ matched).1
  · intro version _ matched
    exact (Bool.and_eq_true _ _ ▸ matched).1

theorem agreeOn_reviews (agree : Agree workspaceId contractId first second) :
    AgreeOn (ownReview workspaceId contractId first) first.reviews.rows
      second.reviews.rows := by
  rw [AgreeOn, agree.reviews, agree.ownReview_eq]

end Agree

/-! ## The search -/

/-- A chunk of a coherent database that is in scope has its index and contract there. -/
theorem ownIndex_of_chunk {database : Database Score} (coherent : Coherent database)
    {chunk : ChunkRow Score} (stored : chunk ∈ database.chunks.rows)
    (own : ownChunk workspaceId contractId chunk = true) {index : IndexRow}
    (inIndexes : index ∈ database.indexes.rows) (named : index.id = chunk.knowledgeIndexId) :
    ownIndex workspaceId contractId index = true := by
  obtain ⟨workspace, contract, _⟩ := coherent.chunk chunk stored index inIndexes named
  rwa [ownIndex, workspace, contract]

theorem ownChunk_of_joined {database : Database Score} {chunk : ChunkRow Score}
    (member : chunk ∈ joined database workspaceId contractId) :
    ownChunk workspaceId contractId chunk = true := by
  obtain ⟨_, own, inside, _⟩ := mem_joined.mp member
  rw [ownChunk, own, inside]
  simp

section Reads

variable (agree : Agree workspaceId contractId first second)
  (coherent : Coherent first) (coherent' : Coherent second)

include agree coherent coherent'

theorem readyIndex_eq {chunk : ChunkRow Score} (stored : chunk ∈ first.chunks.rows)
    (stored' : chunk ∈ second.chunks.rows)
    (own : ownChunk workspaceId contractId chunk = true) :
    readyIndex first chunk = readyIndex second chunk := by
  apply agree.indexes.any_eq
  · intro index inIndexes matched
    simp only [Bool.and_eq_true, decide_eq_true_eq] at matched
    exact ownIndex_of_chunk coherent stored own inIndexes matched.1.1
  · intro index inIndexes matched
    simp only [Bool.and_eq_true, decide_eq_true_eq] at matched
    exact ownIndex_of_chunk coherent' stored' own inIndexes matched.1.1

omit coherent coherent' in
theorem currentVersion_eq {rowContractId : String}
    (inside : inScope contractId rowContractId = true) (rowVersionId : String) :
    currentVersion first workspaceId rowContractId rowVersionId =
      currentVersion second workspaceId rowContractId rowVersionId := by
  have own {contract : KnowledgeBase.ContractRow}
      (matched : (decide (contract.id = rowContractId) &&
        decide (contract.workspaceId = workspaceId) &&
          decide (contract.currentVersionId = some rowVersionId)) = true) :
      ownContract workspaceId contractId contract = true := by
    simp only [Bool.and_eq_true, decide_eq_true_eq] at matched
    rw [ownContract, matched.1.1, matched.1.2, inside]
    simp
  exact agree.contracts.any_eq (fun _ _ => own) (fun _ _ => own)

theorem joined_eq : joined first workspaceId contractId =
    joined second workspaceId contractId := by
  apply agree.chunks.filter_eq
  · intro chunk stored matched
    exact ownChunk_of_joined (List.mem_filter.mpr ⟨stored, matched⟩)
  · intro chunk stored matched
    exact ownChunk_of_joined (List.mem_filter.mpr ⟨stored, matched⟩)
  · intro chunk stored stored' own
    have ready := readyIndex_eq agree coherent coherent' stored stored' own
    rw [ownChunk, Bool.and_eq_true, decide_eq_true_eq] at own
    rw [ready, own.1, currentVersion_eq agree own.2]

section Ranked

variable [LinearOrder Score] (scores : SearchScores Score) (sqlite : Bool)

theorem hitsOf_eq (search : Search Score) (workspace : search.workspaceId = workspaceId)
    (scope : inScope search.contractId = inScope contractId) :
    hitsOf scores sqlite first search = hitsOf scores sqlite second search := by
  subst workspace
  have rows : joined first search.workspaceId search.contractId =
      joined second search.workspaceId search.contractId := by
    have here := joined_eq agree coherent coherent'
    simpa only [joined, scope] using here
  have ownOf {database : Database Score} {chunk : ChunkRow Score}
      (candidate : chunk ∈ candidateChunks scores database search) :
      ownChunk search.workspaceId contractId chunk = true := by
    have own := ownChunk_of_joined (joined_of_candidate candidate)
    simpa only [ownChunk, scope] using own
  have candidates : candidateChunks scores first search =
      candidateChunks scores second search := by
    apply agree.chunks.filter_eq
    · intro chunk stored matched
      exact ownOf (List.mem_filter.mpr ⟨stored, matched⟩)
    · intro chunk stored matched
      exact ownOf (List.mem_filter.mpr ⟨stored, matched⟩)
    · intro chunk _ _ _
      rw [rows]
  cases sqlite with
  | true =>
      change sqliteHybridSearch scores first search = sqliteHybridSearch scores second search
      unfold sqliteHybridSearch
      rw [rows]
  | false =>
      change postgresHybridSearch scores first search =
        postgresHybridSearch scores second search
      unfold postgresHybridSearch
      rw [rows, candidates]

theorem hybridSearch_eq (search : Search Score) (workspace : search.workspaceId = workspaceId)
    (scope : inScope search.contractId = inScope contractId) :
    hybridSearch scores sqlite first search = hybridSearch scores sqlite second search := by
  unfold hybridSearch
  cases validateEmbedding scores.toChunkTests search.queryEmbedding with
  | error raised => rfl
  | ok embedding =>
      have hits := hitsOf_eq agree coherent coherent' scores sqlite
        { search with queryText := strip search.queryText, queryEmbedding := embedding }
        workspace scope
      simp only [bind, Except.bind, hits]

end Ranked

/-! ## Summaries and timelines -/

omit coherent coherent' in
/-- The two states find the same contract in scope. -/
theorem findContract_eq {asked : String} (inside : inScope contractId asked = true) :
    (first.contracts.rows.find? fun row => row.workspaceId = workspaceId && row.id = asked) =
      second.contracts.rows.find? fun row =>
        row.workspaceId = workspaceId && row.id = asked := by
  have own {contract : KnowledgeBase.ContractRow}
      (matched : (decide (contract.workspaceId = workspaceId) &&
        decide (contract.id = asked)) = true) :
      ownContract workspaceId contractId contract = true := by
    simp only [Bool.and_eq_true, decide_eq_true_eq] at matched
    rw [ownContract, matched.1, matched.2, inside]
    simp
  exact agree.contracts.find?_eq (fun _ _ => own) (fun _ _ => own)

theorem currentReview_eq {contract : KnowledgeBase.ContractRow}
    (stored : contract ∈ first.contracts.rows)
    (own : ownContract workspaceId contractId contract = true) :
    currentReview first contract = currentReview second contract := by
  have stored' := (agree.contracts.mem_iff own).mp stored
  unfold currentReview
  cases current : contract.currentVersionId with
  | none => rfl
  | some versionId =>
      have ownOf {database : Database Score} (coherent : Coherent database)
          (inContracts : contract ∈ database.contracts.rows) :
          ∀ version ∈ database.versions.rows, decide (version.id = versionId) = true →
            ownVersion workspaceId contractId database version = true := by
        intro version inVersions named
        rw [decide_eq_true_eq] at named
        have belongs := coherent.current contract inContracts version inVersions
          (by rw [current, named])
        rw [ownVersion, List.any_eq_true]
        exact ⟨contract, inContracts, by simp [own, belongs]⟩
      have sameVersion : first.versions.find? versionId =
          second.versions.find? versionId := by
        apply agree.agreeOn_versions.find?_eq (ownOf coherent stored)
        rw [agree.ownVersion_eq]
        exact ownOf coherent' stored'
      rw [Option.bind_some, Option.bind_some, ← sameVersion]
      cases found : first.versions.find? versionId with
      | none => rfl
      | some version =>
          have inVersions := RowTable.mem_of_find? found
          have ownIt := ownOf coherent stored version inVersions
            (decide_eq_true (RowTable.key_of_find? found))
          have reviewOwn : ∀ row : ReviewRow,
              decide (row.contractVersionId = version.id) = true →
                ownReview workspaceId contractId first row = true := by
            intro row named
            rw [decide_eq_true_eq] at named
            rw [ownReview, List.any_eq_true]
            exact ⟨version, inVersions, by simp [ownIt, named]⟩
          exact agree.agreeOn_reviews.find?_eq (fun row _ => reviewOwn row)
            (fun row _ => reviewOwn row)

variable {Json : Type} (providers : Providers Score Json)

theorem readContractSummary_eq {asked : String}
    (inside : inScope contractId asked = true) :
    readContractSummary providers first workspaceId asked =
      readContractSummary providers second workspaceId asked := by
  have same := findContract_eq agree inside
  unfold readContractSummary
  rw [← same]
  cases found : first.contracts.rows.find? fun row =>
      row.workspaceId = workspaceId && row.id = asked with
  | none => rfl
  | some contract =>
      have matched := List.find?_some found
      simp only [Bool.and_eq_true, decide_eq_true_eq] at matched
      have own : ownContract workspaceId contractId contract = true := by
        rw [ownContract, matched.1, matched.2, inside]
        simp
      have review := currentReview_eq agree coherent coherent'
        (List.mem_of_find?_eq_some found) own
      simp only [review]

omit coherent coherent' in
theorem timelineRows_eq {asked : String} (inside : inScope contractId asked = true) :
    timelineRows first workspaceId asked = timelineRows second workspaceId asked := by
  have own {event : KnowledgeBase.AuditEventRow}
      (matched : (decide (event.workspaceId = workspaceId) &&
        decide (event.contractId = some asked)) = true) :
      ownEvent workspaceId contractId event = true := by
    simp only [Bool.and_eq_true, decide_eq_true_eq] at matched
    rw [ownEvent, matched.1, matched.2, Option.any_some, inside]
    simp
  have rows := agree.auditEvents.filter_eq (fun _ _ => own) (fun _ _ => own)
    fun _ _ _ _ => rfl
  rw [timelineRows, timelineRows, RowTable.select, RowTable.select, rows]

omit coherent coherent' in
theorem readContractTimeline_eq {asked : String}
    (inside : inScope contractId asked = true) :
    readContractTimeline providers first workspaceId asked =
      readContractTimeline providers second workspaceId asked := by
  rw [readContractTimeline, readContractTimeline, timelineRows_eq agree inside]

/-! ## The tools -/

omit agree coherent coherent' in
/-- The filter that the search tool hands on admits what the scope does. -/
theorem inScope_filter :
    inScope (contractId.filter fun scope => scope ≠ "") = inScope contractId := by
  funext rowContractId
  cases contractId with
  | none => rfl
  | some scope =>
      by_cases empty : scope = ""
      · simp [inScope, Option.filter, empty]
      · simp [inScope, Option.filter, empty]

omit agree coherent coherent' in
theorem inScope_self (selected : String) : inScope (some selected) selected = true := by
  by_cases empty : selected = ""
  · simp [inScope, Option.filter, empty]
  · simp [inScope, Option.filter, empty]

omit agree coherent coherent' in
/-- A tool that does not turn the caller away reads a contract in scope. -/
theorem inScope_of_asked {asked : String}
    (admitted : ¬ (contractId.any fun selected => asked ≠ selected) = true) :
    inScope contractId asked = true := by
  cases contractId with
  | none => rfl
  | some selected =>
      have same : asked = selected := by simpa using admitted
      rw [same]
      exact inScope_self selected

variable [LinearOrder Score] (sqlite : Bool)

theorem retrieve_eq (query : RetrievalQuery) (workspace : query.workspaceId = workspaceId)
    (scope : inScope query.contractId = inScope contractId) :
    retrieve providers sqlite first query = retrieve providers sqlite second query := by
  unfold retrieve
  cases providers.embedDocument query.text with
  | error raised => rfl
  | ok vector =>
      have hits := hybridSearch_eq agree coherent coherent' providers.scores sqlite
        { workspaceId := query.workspaceId
          queryText := query.text
          queryEmbedding := vector
          contractId := query.contractId
          limit := query.candidateLimit
          candidatePool := max query.candidateLimit 60 }
        workspace scope
      simp only [bind, Except.bind, hits]

theorem searchContractContext_eq (query : Text) (limit : Int)
    (registry : RunEvidenceRegistry Score) :
    searchContractContext (retrieve providers sqlite first) workspaceId contractId query
        limit registry =
      searchContractContext (retrieve providers sqlite second) workspaceId contractId query
        limit registry := by
  have same : (searchQuery workspaceId contractId query limit).checked.bind
        (retrieve providers sqlite first) =
      (searchQuery workspaceId contractId query limit).checked.bind
        (retrieve providers sqlite second) := by
    unfold RetrievalQuery.checked
    split
    · rfl
    · split
      · rfl
      · exact retrieve_eq agree coherent coherent' providers sqlite _ rfl inScope_filter
  rw [searchContractContext, searchContractContext, same]

theorem perform_eq (call : ToolCall) (registry : RunEvidenceRegistry Score) :
    call.perform providers sqlite first workspaceId contractId registry =
      call.perform providers sqlite second workspaceId contractId registry := by
  cases call with
  | searchContractContext query limit =>
      simp only [ToolCall.perform,
        searchContractContext_eq agree coherent coherent' providers sqlite query limit]
  | getContractSummary asked =>
      simp only [ToolCall.perform, getContractSummary]
      split
      · rfl
      · rename_i admitted
        rw [readContractSummary_eq agree coherent coherent' providers
          (inScope_of_asked admitted)]
  | getSelectedContractSummary =>
      cases contractId with
      | none => rfl
      | some selected =>
          simp only [ToolCall.perform, getSelectedContractSummary,
            readContractSummary_eq agree coherent coherent' providers
              (inScope_self selected)]
  | getContractTimeline asked =>
      simp only [ToolCall.perform, getContractTimeline]
      split
      · rfl
      · rename_i admitted
        rw [readContractTimeline_eq agree providers (inScope_of_asked admitted)]
  | getSelectedContractTimeline =>
      cases contractId with
      | none => rfl
      | some selected =>
          simp only [ToolCall.perform, getSelectedContractTimeline,
            readContractTimeline_eq agree providers (inScope_self selected)]

theorem performAll_eq (calls : List ToolCall) (registry : RunEvidenceRegistry Score) :
    performAll providers sqlite first workspaceId contractId calls registry =
      performAll providers sqlite second workspaceId contractId calls registry := by
  induction calls generalizing registry with
  | nil => rfl
  | cons call rest induction =>
      simp only [performAll, perform_eq agree coherent coherent' providers sqlite, induction]

end Reads

/-- Wherever two runs of the repositories lead: if the databases agree on the rows of the
workspace and its scope, a conversation there is given the same answers, call by call. -/
theorem tools_isolated [LinearOrder Score] {Json : Type} (providers : Providers Score Json)
    {tests : ChunkTests Score} {steps steps' : List (KnowledgeStep Score)}
    (run : KnowledgeRun tests steps first) (run' : KnowledgeRun tests steps' second)
    (agree : Agree workspaceId contractId first second) (sqlite : Bool)
    (calls : List ToolCall) (registry : RunEvidenceRegistry Score) :
    performAll providers sqlite first workspaceId contractId calls registry =
      performAll providers sqlite second workspaceId contractId calls registry :=
  performAll_eq agree (coherent_of_run run) (coherent_of_run run') providers sqlite calls
    registry

end Isolation

/-! ## Two workspaces -/

def sampleProviders : Providers Nat String where
  scores := sampleScores
  embedDocument _ := .ok (List.replicate 1024 0)
  rerank _ _ _ := .ok []
  loads text := .ok text
  shownTime time := toString time

def foreignContract : Database Nat :=
  (Action.createContract "foreign" "foreign-version" "elsewhere" none "review_ready" 0).apply
    sampleScores.toChunkTests sampleOnce

/-- The sample workspace beside another one with an indexed contract. -/
def sampleShared : Database Nat :=
  (replaceIndex sampleScores.toChunkTests foreignContract "foreign-index"
    { sampleSpec "small" with
      workspaceId := "elsewhere"
      contractId := "foreign"
      contractVersionId := "foreign-version" }
    (fun _ => "foreign-chunk") [sampleChunk]).2

set_option maxRecDepth 10000 in
theorem leads_sampleShared : Leads sampleScores.toChunkTests {} sampleShared := by
  have created : Leads sampleScores.toChunkTests sampleOnce foreignContract := by
    have fresh : (Action.createContract "foreign" "foreign-version" "elsewhere" none
        "review_ready" 0).Fresh sampleOnce := by
      change ∀ contract ∈ sampleOnce.contracts.rows,
        contract.currentVersionId ≠ some "foreign-version"
      decide
    exact leads_apply fresh
  apply leads_sampleOnce.trans
  apply created.trans
  apply leads_replaceIndex
  decide

set_option maxRecDepth 10000 in
/-- The other workspace changes nothing for a conversation of the first. -/
theorem tools_isolated_sample :
    ∃ steps, KnowledgeRun sampleScores.toChunkTests steps sampleOnce ∧
      ∃ steps', KnowledgeRun sampleScores.toChunkTests steps' sampleShared ∧
        performAll sampleProviders true sampleOnce "workspace" none
            [.searchContractContext sampleSearch.queryText 8, .getContractSummary "foreign"]
            {} =
          performAll sampleProviders true sampleShared "workspace" none
            [.searchContractContext sampleSearch.queryText 8, .getContractSummary "foreign"]
            {} := by
  obtain ⟨steps, run⟩ := leads_sampleOnce [] .nil
  obtain ⟨steps', run'⟩ := leads_sampleShared [] .nil
  have agree : Agree "workspace" none sampleOnce sampleShared := by
    constructor
    · rw [AgreeOn]
      decide
    · decide
    · decide
    · rw [AgreeOn]
      decide
    · rw [AgreeOn]
      decide
    · rw [AgreeOn]
      decide
  exact ⟨_, run, _, run', tools_isolated sampleProviders run run' agree true _ {}⟩

end ChatTools

end ContractMate
