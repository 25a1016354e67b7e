import ContractMate.BracketedGroups
import ContractMate.PythonText
import ContractMate.ReviewJobs
import ContractMate.RowWrites

/-!
# Evidence of a chat run

The registry that numbers the chunks which the searches of one run return, and the
check of an answer's citations against it.
-/

namespace ContractMate

namespace ChatEvidence

open PythonText

/-! ## Retrieval results -/

/-- A metadata value as far as it is read: its truth value and its `str`. -/
structure MetadataValue where
  truthy : Bool
  shown : String
deriving DecidableEq, Repr

/-- A chunk's metadata; a later entry overrides an earlier one. -/
abbrev Metadata := List (String × MetadataValue)

/-- `metadata.get(name)`. -/
def Metadata.get (metadata : Metadata) (name : String) : Option MetadataValue :=
  metadata.reverse.lookup name

/-- `str(value)` of `value = metadata.get(name)`, if it is truthy. -/
def Metadata.shown? (metadata : Metadata) (name : String) : Option String :=
  ((metadata.get name).filter MetadataValue.truthy).map MetadataValue.shown

structure DocumentChunk where
  id : String
  documentId : String
  contractId : String
  pageNumber : Option Int
  text : String
  metadata : Metadata
deriving DecidableEq, Repr

structure RetrievedChunk (Score : Type) where
  chunk : DocumentChunk
  rrfScore : Score
  rerankScore : Option Score
  sources : List String
deriving DecidableEq, Repr

structure RetrievalQuery where
  workspaceId : String
  text : Text
  limit : Int
  candidateLimit : Int
  contractId : Option String
deriving DecidableEq, Repr

/-- `RetrievalQuery.__post_init__`. -/
def RetrievalQuery.checked (query : RetrievalQuery) : Except Exn RetrievalQuery :=
  if isBlank query.workspaceId.toList || isBlank query.text then
    .error (Exn.valueError "workspace_id and query text are required.")
  else if query.limit < 1 || query.candidateLimit < query.limit then
    .error (Exn.valueError
      "candidate_limit must be greater than or equal to a positive limit.")
  else .ok query

/-! ## The registry -/

structure ChatEvidenceSource (Score : Type) where
  sourceId : Text
  chunkId : String
  contractId : String
  contractVersionId : String
  sourceType : String
  pageNumber : Option Int
  excerpt : String
  relevance : Score
  retrievalSources : List String
  metadata : Metadata
deriving DecidableEq, Repr

/-- `f"S{number}"`. -/
def sourceId (number : Nat) : Text :=
  'S' :: Nat.toDigits 10 number

/-- `_RunEvidenceRegistry`; each dictionary is keyed by a field of its values. -/
structure RunEvidenceRegistry (Score : Type) where
  byChunkId : RowTable (@ChatEvidenceSource.chunkId Score) := .empty
  bySourceId : RowTable (@ChatEvidenceSource.sourceId Score) := .empty

/-- `CitationIntegrityError`, a `RuntimeError`. -/
def citationIntegrityError (message : String) : Exn :=
  Exn.runtimeError message

/-- `_BRACKET_PATTERN`, `\[([^\[\]\n]{1,120})\]`. -/
def bracketPattern : Bracketing Char where
  opening := '['
  closing := ']'
  plain character := character != '[' && character != ']' && character != '\n'
  most := 120
  opening_special := by decide
  closing_special := by decide
  different := by decide

/-- `_SOURCE_ID_PATTERN.fullmatch(token)`, for `S[1-9]\d*`. -/
def matchesSourceId : Text → Bool
  | 'S' :: first :: rest => '1' ≤ first && first ≤ '9' && rest.all isDecimal
  | _ => false

namespace RunEvidenceRegistry

variable {Score : Type} (registry : RunEvidenceRegistry Score)

/-- The evidence in the order of its registration. -/
def sources : List (ChatEvidenceSource Score) :=
  registry.bySourceId.rows

/-- What `register` makes of a chunk that is new to it. -/
def newSource (result : RetrievedChunk Score) : ChatEvidenceSource Score where
  sourceId := sourceId (registry.bySourceId.rows.length + 1)
  chunkId := result.chunk.id
  contractId := result.chunk.contractId
  contractVersionId :=
    (result.chunk.metadata.shown? "contract_version_id").getD result.chunk.documentId
  sourceType := (result.chunk.metadata.shown? "source_type").getD "knowledge_chunk"
  pageNumber := result.chunk.pageNumber
  excerpt := result.chunk.text
  relevance := result.rerankScore.getD result.rrfScore
  retrievalSources := result.sources
  metadata := result.chunk.metadata

def register (result : RetrievedChunk Score) :
    ChatEvidenceSource Score × RunEvidenceRegistry Score :=
  match registry.byChunkId.find? result.chunk.id with
  | some existing => (existing, registry)
  | none =>
      let source := registry.newSource result
      (source,
        { byChunkId := registry.byChunkId.put source
          bySourceId := registry.bySourceId.put source })

/-- The loop of `resolve_citations`. -/
def resolveTokens : List Text → List Text → List (ChatEvidenceSource Score) →
    Except Exn (List (ChatEvidenceSource Score))
  | [], _, cited => .ok cited
  | rawToken :: rest, seen, cited =>
      let token := strip rawToken
      if matchesSourceId token then
        match registry.bySourceId.find? token with
        | none =>
            .error (citationIntegrityError
              ("The answer cited unknown evidence source [" ++ String.ofList token ++ "]."))
        | some source =>
            if token ∈ seen then resolveTokens rest seen cited
            else resolveTokens rest (token :: seen) (cited ++ [source])
      else
        .error (citationIntegrityError
          ("The answer emitted an invalid evidence citation [" ++ String.ofList token ++
            "]."))

def resolveCitations (content : Text) : Except Exn (List (ChatEvidenceSource Score)) :=
  registry.resolveTokens (bracketPattern.findAll content) [] []

end RunEvidenceRegistry

/-! ## The search tool -/

/-- What the tool shows the model of a piece of evidence. -/
structure EvidenceItem (Score : Type) where
  sourceId : Text
  documentTitle : String
  pageNumber : Option Int
  text : String
  score : Score
  retrievalSources : List String
deriving DecidableEq, Repr

section Search

variable {Score : Type}

def ChatEvidenceSource.item (source : ChatEvidenceSource Score) : EvidenceItem Score where
  sourceId := source.sourceId
  documentTitle := (source.metadata.shown? "contract_title").getD
    ((source.metadata.shown? "title").getD "Contract")
  pageNumber := source.pageNumber
  text := source.excerpt
  score := source.relevance
  retrievalSources := source.retrievalSources

/-- The loop over the results of a search. -/
def registerAll : List (RetrievedChunk Score) → RunEvidenceRegistry Score →
    List (EvidenceItem Score) × RunEvidenceRegistry Score
  | [], registry => ([], registry)
  | result :: rest, registry =>
      let registered := registry.register result
      let later := registerAll rest registered.2
      (registered.1.item :: later.1, later.2)

/-- The query that `search_contract_context` makes. -/
def searchQuery (workspaceId : String) (contractId : Option String) (query : Text)
    (limit : Int) : RetrievalQuery :=
  let safeLimit := max 1 (min limit 12)
  { workspaceId, text := query, limit := safeLimit
    candidateLimit := max 24 (safeLimit * 3)
    contractId := contractId.filter fun scope => scope ≠ "" }

/-- `search_contract_context`. -/
def searchContractContext
    (retrieve : RetrievalQuery → Except Exn (List (RetrievedChunk Score)))
    (workspaceId : String) (contractId : Option String) (query : Text) (limit : Int)
    (registry : RunEvidenceRegistry Score) :
    Except Exn (List (EvidenceItem Score)) × RunEvidenceRegistry Score :=
  match (searchQuery workspaceId contractId query limit).checked.bind retrieve with
  | .error raised => (.error raised, registry)
  | .ok results =>
      let response := registerAll results registry
      (.ok response.1, response.2)

/-- A call of the tool together with what retrieval does for it. -/
structure SearchCall (Score : Type) where
  retrieve : RetrievalQuery → Except Exn (List (RetrievedChunk Score))
  query : Text
  limit : Int

variable (workspaceId : String) (contractId : Option String)

/-- The results that retrieval hands to the tool. -/
def SearchCall.results (call : SearchCall Score) : List (RetrievedChunk Score) :=
  match (searchQuery workspaceId contractId call.query call.limit).checked.bind
      call.retrieve with
  | .error _ => []
  | .ok results => results

def SearchCall.perform (call : SearchCall Score) (registry : RunEvidenceRegistry Score) :
    Except Exn (List (EvidenceItem Score)) × RunEvidenceRegistry Score :=
  searchContractContext call.retrieve workspaceId contractId call.query call.limit registry

/-- The registry of a run after its searches. -/
def registryAfter (calls : List (SearchCall Score)) : RunEvidenceRegistry Score :=
  calls.foldl (fun registry call => (call.perform workspaceId contractId registry).2) {}

end Search

/-! ## Source identifiers -/

theorem sourceId_injective : Function.Injective sourceId := by
  intro first second same
  have digits : Nat.toDigits 10 first = Nat.toDigits 10 second :=
    List.tail_eq_of_cons_eq same
  have readBack : Nat.ofDigitChars 10 (Nat.toDigits 10 first) 0 = first :=
    Nat.ofDigitChars_ten_toDigits
  rw [← readBack, digits, Nat.ofDigitChars_ten_toDigits]

theorem toDigits_head (number : Nat) (positive : 0 < number) :
    ∃ first rest, Nat.toDigits 10 number = first :: rest ∧ '1' ≤ first ∧ first ≤ '9' := by
  induction number using Nat.strong_induction_on with
  | h number induction =>
      by_cases small : number < 10
      · have bounds : ∀ digit < 10, 0 < digit →
            '1' ≤ Nat.digitChar digit ∧ Nat.digitChar digit ≤ '9' := by decide
        exact ⟨number.digitChar, [], Nat.toDigits_of_lt_base small,
          bounds number small positive⟩
      · obtain ⟨first, rest, digits, bounds⟩ := induction (number / 10) (by omega) (by omega)
        refine ⟨first, rest ++ [(number % 10).digitChar], ?_, bounds⟩
        rw [Nat.toDigits_of_base_le (by decide) (by omega), digits, List.cons_append]

theorem isDecimal_of_isDigit {character : Char} (digit : character.isDigit = true) :
    isDecimal character = true := by
  rw [Char.isDigit, Bool.and_eq_true, decide_eq_true_eq, decide_eq_true_eq] at digit
  rw [isDecimal, decimalValue, Option.isSome_map, List.find?_isSome]
  refine ⟨0x30, by decide, ?_⟩
  rw [Bool.and_eq_true, decide_eq_true_eq, decide_eq_true_eq]
  have least : 48 ≤ character.toNat := digit.1
  have greatest : character.toNat ≤ 57 := digit.2
  omega

/-- The identifiers that the registry gives out match the pattern. -/
theorem matchesSourceId_sourceId {number : Nat} (positive : 0 < number) :
    matchesSourceId (sourceId number) = true := by
  obtain ⟨first, rest, digits, least, greatest⟩ := toDigits_head number positive
  rw [sourceId, digits, matchesSourceId, Bool.and_eq_true, Bool.and_eq_true,
    decide_eq_true_eq, decide_eq_true_eq, List.all_eq_true]
  refine ⟨⟨least, greatest⟩, ?_⟩
  intro character member
  have inDigits : character ∈ Nat.toDigits 10 number := by simp [digits, member]
  exact isDecimal_of_isDigit
    (Nat.isDigit_of_mem_toDigits (by decide) (by decide) inDigits)

/-! ## Registration -/

namespace RunEvidenceRegistry

variable {Score : Type} {registry : RunEvidenceRegistry Score}

/-- The evidence is numbered in the order of its registration. -/
structure Numbered (registry : RunEvidenceRegistry Score) : Prop where
  same : registry.byChunkId.rows = registry.bySourceId.rows
  ids : registry.sources.map ChatEvidenceSource.sourceId =
    (List.range registry.sources.length).map fun position => sourceId (position + 1)

theorem numbered_empty : Numbered ({} : RunEvidenceRegistry Score) :=
  ⟨rfl, rfl⟩

theorem Numbered.id_of_mem (numbered : Numbered registry)
    {source : ChatEvidenceSource Score} (member : source ∈ registry.sources) :
    ∃ number, 0 < number ∧ number ≤ registry.sources.length ∧
      source.sourceId = sourceId number := by
  have named : source.sourceId ∈ registry.sources.map ChatEvidenceSource.sourceId :=
    List.mem_map_of_mem member
  rw [numbered.ids, List.mem_map] at named
  obtain ⟨position, inRange, same⟩ := named
  have bound := List.mem_range.mp inRange
  exact ⟨position + 1, by omega, by omega, same.symm⟩

/-- A chunk registered before keeps its source; a new one gets the next number. -/
theorem Numbered.register (numbered : Numbered registry) (result : RetrievedChunk Score) :
    ((∃ source ∈ registry.sources, source.chunkId = result.chunk.id ∧
        registry.register result = (source, registry)) ∨
      ((∀ source ∈ registry.sources, source.chunkId ≠ result.chunk.id) ∧
        (registry.register result).1 = registry.newSource result ∧
        (registry.register result).2.sources =
          registry.sources ++ [registry.newSource result])) ∧
      Numbered (registry.register result).2 := by
  cases known : registry.byChunkId.find? result.chunk.id with
  | some source =>
      have unchanged : registry.register result = (source, registry) := by
        rw [RunEvidenceRegistry.register, known]
      have member := RowTable.mem_of_find? known
      rw [numbered.same] at member
      rw [unchanged]
      exact ⟨.inl ⟨source, member, RowTable.key_of_find? known, rfl⟩, numbered⟩
  | none =>
      have added : registry.register result = (registry.newSource result,
          { byChunkId := registry.byChunkId.put (registry.newSource result)
            bySourceId := registry.bySourceId.put (registry.newSource result) }) := by
        rw [RunEvidenceRegistry.register, known]
      have newId : registry.bySourceId.find? (registry.newSource result).sourceId = none := by
        rw [RowTable.find?_eq_none_iff, List.mem_map]
        rintro ⟨source, member, same⟩
        obtain ⟨number, _, bound, named⟩ := numbered.id_of_mem member
        have equal := sourceId_injective (named.symm.trans same)
        change number = registry.sources.length + 1 at equal
        omega
      have byChunk : (registry.byChunkId.put (registry.newSource result)).rows = _ :=
        RowTable.rows_put known
      have bySource : (registry.bySourceId.put (registry.newSource result)).rows = _ :=
        RowTable.rows_put newId
      rw [added]
      refine ⟨.inr ⟨?_, rfl, bySource⟩, ?_, ?_⟩
      · intro source member same
        rw [sources, ← numbered.same] at member
        exact RowTable.find?_eq_none_iff.mp known (List.mem_map.mpr ⟨source, member, same⟩)
      · rw [byChunk, bySource, numbered.same]
      · change (registry.bySourceId.put (registry.newSource result)).rows.map _ =
          (List.range (registry.bySourceId.put (registry.newSource result)).rows.length).map _
        rw [bySource, List.map_append, List.length_append, List.length_singleton,
          List.range_succ, List.map_append]
        congr 1
        exact numbered.ids

theorem eraseDups_append_singleton (values : List String) (value : String) :
    (values ++ [value]).eraseDups =
      if value ∈ values then values.eraseDups else values.eraseDups ++ [value] := by
  rw [List.eraseDups_append]
  by_cases known : value ∈ values
  · simp [List.removeAll, known]
  · simp [List.removeAll, known, List.eraseDups_cons]

/-- The registry holds what was returned so far, each chunk once and in order. -/
structure Holds (registry : RunEvidenceRegistry Score)
    (returned : List (RetrievedChunk Score)) : Prop where
  numbered : Numbered registry
  chunks : registry.sources.map ChatEvidenceSource.chunkId =
    (returned.map fun result => result.chunk.id).eraseDups

theorem holds_empty : Holds ({} : RunEvidenceRegistry Score) [] :=
  ⟨numbered_empty, rfl⟩

theorem Holds.mem_chunks {returned : List (RetrievedChunk Score)}
    (holds : Holds registry returned) {chunkId : String} :
    chunkId ∈ registry.sources.map ChatEvidenceSource.chunkId ↔
      chunkId ∈ returned.map fun result => result.chunk.id := by
  rw [holds.chunks, List.mem_eraseDups]

theorem Holds.register {returned : List (RetrievedChunk Score)}
    (holds : Holds registry returned) (result : RetrievedChunk Score) :
    Holds (registry.register result).2 (returned ++ [result]) := by
  obtain ⟨cases_, numbered⟩ := holds.numbered.register result
  refine ⟨numbered, ?_⟩
  rw [List.map_append, List.map_singleton, eraseDups_append_singleton]
  rcases cases_ with ⟨source, member, named, unchanged⟩ | ⟨new, _, added⟩
  · have known : result.chunk.id ∈ returned.map fun result => result.chunk.id :=
      holds.mem_chunks.mp (named ▸ List.mem_map_of_mem member)
    rw [unchanged, holds.chunks, if_pos known]
  · have unknown : result.chunk.id ∉ returned.map fun result => result.chunk.id := by
      rw [← holds.mem_chunks, List.mem_map]
      rintro ⟨source, member, named⟩
      exact new source member named
    rw [added, List.map_append, holds.chunks, if_neg unknown]
    rfl

/-- Evidence is never dropped. -/
theorem Numbered.sources_prefix (numbered : Numbered registry)
    (result : RetrievedChunk Score) :
    registry.sources <+: (registry.register result).2.sources := by
  rcases (numbered.register result).1 with ⟨_, _, _, unchanged⟩ | ⟨_, _, added⟩
  · rw [unchanged]
  · rw [added]
    exact List.prefix_append _ _

/-- The source returned is the one of the result's chunk. -/
theorem Numbered.register_source (numbered : Numbered registry)
    (result : RetrievedChunk Score) :
    (registry.register result).1 ∈ (registry.register result).2.sources ∧
      (registry.register result).1.chunkId = result.chunk.id := by
  rcases (numbered.register result).1 with ⟨source, member, named, unchanged⟩ | ⟨_, new, added⟩
  · rw [unchanged]
    exact ⟨member, named⟩
  · rw [added, new]
    exact ⟨by simp, rfl⟩

end RunEvidenceRegistry

open RunEvidenceRegistry

section Searches

variable {Score : Type} {registry : RunEvidenceRegistry Score}

theorem holds_registerAll (results : List (RetrievedChunk Score)) :
    ∀ {returned : List (RetrievedChunk Score)} {registry : RunEvidenceRegistry Score},
      Holds registry returned →
        Holds (registerAll results registry).2 (returned ++ results) ∧
          registry.sources <+: (registerAll results registry).2.sources := by
  induction results with
  | nil =>
      intro returned registry holds
      rw [List.append_nil]
      exact ⟨holds, List.prefix_rfl⟩
  | cons result rest induction =>
      intro returned registry holds
      obtain ⟨later, grows⟩ := induction (holds.register result)
      rw [List.append_assoc, List.singleton_append] at later
      exact ⟨later, (holds.numbered.sources_prefix result).trans grows⟩

/-- Every item shown is the source of its result's chunk. -/
theorem registerAll_items (results : List (RetrievedChunk Score)) :
    ∀ {returned : List (RetrievedChunk Score)} {registry : RunEvidenceRegistry Score},
      Holds registry returned →
        List.Forall₂ (fun item result =>
            ∃ source ∈ (registerAll results registry).2.sources,
              source.chunkId = result.chunk.id ∧ item = source.item)
          (registerAll results registry).1 results := by
  induction results with
  | nil =>
      intro returned registry _
      exact .nil
  | cons result rest induction =>
      intro returned registry holds
      have next := holds.register result
      obtain ⟨member, named⟩ := holds.numbered.register_source result
      refine .cons ⟨_, ?_, named, rfl⟩ (induction next)
      exact (holds_registerAll rest next).2.subset member

variable (workspaceId : String) (contractId : Option String)

theorem perform_snd (call : SearchCall Score) :
    (call.perform workspaceId contractId registry).2 =
      (registerAll (call.results workspaceId contractId) registry).2 := by
  rw [SearchCall.perform, searchContractContext, SearchCall.results]
  split
  · rfl
  · rfl

/-- The registry of a run holds what its searches returned. -/
theorem holds_registryAfter (calls : List (SearchCall Score)) :
    Holds (registryAfter workspaceId contractId calls)
      (calls.flatMap (SearchCall.results workspaceId contractId)) := by
  induction calls using List.reverseRecOn with
  | nil => exact holds_empty
  | append_singleton calls call induction =>
      rw [registryAfter, List.foldl_append, List.flatMap_append, List.flatMap_singleton]
      rw [List.foldl_cons, List.foldl_nil, perform_snd]
      exact (holds_registerAll _ induction).1

end Searches

/-! ## Citations -/

/-- The citations of a text: its bracketed groups, trimmed. -/
def citations (content : Text) : List Text :=
  (bracketPattern.groups content).map strip

theorem ne_of_isSpace {character bracket : Char} (space : isSpace character = true)
    (visible : isSpace bracket = false) : character ≠ bracket := by
  rintro rfl
  rw [space] at visible
  cases visible

/-- Trimming a text leaves its citations. -/
theorem citations_strip (content : Text) : citations (strip content) = citations content := by
  have back : content = rstrip content ++ content.rtakeWhile isSpace :=
    List.rdropWhile_append_rtakeWhile.symm
  have front : rstrip content =
      (rstrip content).takeWhile isSpace ++ strip content :=
    List.takeWhile_append_dropWhile.symm
  have inFront : bracketPattern.groups (rstrip content) =
      bracketPattern.groups (strip content) := by
    conv_lhs => rw [front]
    apply Bracketing.groups_append_left
    intro character member
    exact ne_of_isSpace (List.mem_takeWhile_imp member) (by decide)
  have inBack : bracketPattern.groups content =
      bracketPattern.groups (rstrip content) := by
    conv_lhs => rw [back]
    apply Bracketing.groups_append_right
    · intro character member
      exact ne_of_isSpace (List.mem_rtakeWhile_imp member) (by decide)
    · intro character member
      exact ne_of_isSpace (List.mem_rtakeWhile_imp member) (by decide)
  rw [citations, citations, inBack, inFront]

example : citations "The fee [S2] is due [[ S1 ]; see [S2] and [S".toList =
    ["S2".toList, "S1".toList, "S2".toList] := by decide

section Citations

variable {Score : Type} {registry : RunEvidenceRegistry Score}

/-- Every citation names evidence of the run. -/
def Supported (registry : RunEvidenceRegistry Score) (content : Text) : Prop :=
  ∀ token ∈ citations content, ∃ source ∈ registry.sources, source.sourceId = token

/-- What is reported is what is cited, once each, in the order of first citation. -/
structure Reports (registry : RunEvidenceRegistry Score) (content : Text)
    (reported : List (ChatEvidenceSource Score)) : Prop where
  registered : ∀ source ∈ reported, source ∈ registry.sources
  cited : reported.map ChatEvidenceSource.sourceId = (citations content).eraseDups

/-- A token is resolved just when it names evidence. -/
theorem find?_token (token : Text) :
    (∃ source, registry.bySourceId.find? token = some source) ↔
      ∃ source ∈ registry.sources, source.sourceId = token := by
  constructor
  · rintro ⟨source, found⟩
    exact ⟨source, RowTable.mem_of_find? found, RowTable.key_of_find? found⟩
  · rintro ⟨source, member, rfl⟩
    exact ⟨source, RowTable.find?_of_mem member⟩

theorem matchesSourceId_of_registered (numbered : Numbered registry) {token : Text}
    (registered : ∃ source ∈ registry.sources, source.sourceId = token) :
    matchesSourceId token = true := by
  obtain ⟨source, member, rfl⟩ := registered
  obtain ⟨number, positive, _, named⟩ := numbered.id_of_mem member
  rw [named]
  exact matchesSourceId_sourceId positive

theorem resolveTokens_ok (numbered : Numbered registry) (rawTokens : List Text) :
    ∀ (seen : List Text) (cited : List (ChatEvidenceSource Score)),
      (∀ rawToken ∈ rawTokens, ∃ source ∈ registry.sources,
        source.sourceId = strip rawToken) →
      ∃ more, registry.resolveTokens rawTokens seen cited = .ok (cited ++ more) ∧
        (∀ source ∈ more, source ∈ registry.sources) ∧
        more.map ChatEvidenceSource.sourceId =
          ((rawTokens.map strip).filter fun token => !decide (token ∈ seen)).eraseDups := by
  induction rawTokens with
  | nil =>
      intro seen cited _
      exact ⟨[], by simp [RunEvidenceRegistry.resolveTokens], by simp, rfl⟩
  | cons rawToken rest induction =>
      intro seen cited supported
      have here := supported rawToken (by simp)
      have later : ∀ other ∈ rest, ∃ source ∈ registry.sources,
          source.sourceId = strip other :=
        fun other member => supported other (by simp [member])
      have matches_ := matchesSourceId_of_registered numbered here
      obtain ⟨source, found⟩ := (find?_token _).mpr here
      simp only [RunEvidenceRegistry.resolveTokens, matches_, if_true, found, List.map_cons]
      by_cases before : strip rawToken ∈ seen
      · obtain ⟨more, resolved, registered, cited_⟩ := induction seen cited later
        refine ⟨more, by rw [if_pos before, resolved], registered, ?_⟩
        rw [List.filter_cons_of_neg (by simp [before]), cited_]
      · obtain ⟨more, resolved, registered, cited_⟩ :=
          induction (strip rawToken :: seen) (cited ++ [source]) later
        refine ⟨source :: more, by rw [if_neg before, resolved]; simp, ?_, ?_⟩
        · intro other member
          rcases List.mem_cons.mp member with rfl | member
          · exact RowTable.mem_of_find? found
          · exact registered other member
        · rw [List.filter_cons_of_pos (by simp [before]), List.eraseDups_cons,
            List.map_cons, cited_, RowTable.key_of_find? found, List.filter_filter]
          congr 3
          funext token
          by_cases same : token = strip rawToken
          · simp [same]
          · simp [same, beq_eq_false_iff_ne.mpr same]

theorem resolveTokens_error {rawTokens : List Text} :
    ∀ (seen : List Text) (cited : List (ChatEvidenceSource Score)),
      (¬ ∀ rawToken ∈ rawTokens, ∃ source ∈ registry.sources,
        source.sourceId = strip rawToken) →
      ∃ message, registry.resolveTokens rawTokens seen cited =
        .error (citationIntegrityError message) := by
  induction rawTokens with
  | nil =>
      intro seen cited unsupported
      exact absurd (by simp) unsupported
  | cons rawToken rest induction =>
      intro seen cited unsupported
      rw [RunEvidenceRegistry.resolveTokens]
      by_cases matches_ : matchesSourceId (strip rawToken) = true
      · rw [if_pos matches_]
        cases found : registry.bySourceId.find? (strip rawToken) with
        | none => exact ⟨_, rfl⟩
        | some source =>
            have later : ¬ ∀ other ∈ rest, ∃ source ∈ registry.sources,
                source.sourceId = strip other := by
              intro supported
              apply unsupported
              intro other member
              rcases List.mem_cons.mp member with rfl | member
              · exact (find?_token _).mp ⟨source, found⟩
              · exact supported other member
            dsimp only
            split
            · exact induction _ _ later
            · exact induction _ _ later
      · rw [if_neg matches_]
        exact ⟨_, rfl⟩

/-- Citations are resolved just when all of them name evidence of the run. -/
theorem resolveCitations_ok (numbered : Numbered registry) {content : Text}
    (supported : Supported registry content) :
    ∃ reported, registry.resolveCitations content = .ok reported ∧
      Reports registry content reported := by
  have tokens : ∀ rawToken ∈ bracketPattern.findAll content, ∃ source ∈ registry.sources,
      source.sourceId = strip rawToken := by
    intro rawToken member
    rw [Bracketing.findAll_eq_groups] at member
    exact supported _ (List.mem_map_of_mem member)
  obtain ⟨reported, resolved, registered, cited⟩ := resolveTokens_ok numbered _ [] [] tokens
  refine ⟨reported, resolved, registered, ?_⟩
  rw [cited, citations, Bracketing.findAll_eq_groups]
  simp

theorem resolveCitations_error {content : Text} (unsupported : ¬ Supported registry content) :
    ∃ message, registry.resolveCitations content =
      .error (citationIntegrityError message) := by
  apply resolveTokens_error
  intro tokens
  apply unsupported
  intro token member
  obtain ⟨rawToken, inContent, rfl⟩ := List.mem_map.mp member
  rw [← Bracketing.findAll_eq_groups] at inContent
  exact tokens rawToken inContent

theorem supported_of_resolved (numbered : Numbered registry) {content : Text}
    {reported : List (ChatEvidenceSource Score)}
    (resolved : registry.resolveCitations content = .ok reported) :
    Supported registry content ∧ Reports registry content reported := by
  by_cases supported : Supported registry content
  · obtain ⟨other, same, reports⟩ := resolveCitations_ok numbered supported
    rw [resolved] at same
    cases same
    exact ⟨supported, reports⟩
  · obtain ⟨message, failed⟩ := resolveCitations_error supported
    rw [resolved] at failed
    cases failed

end Citations

end ChatEvidence

end ContractMate
