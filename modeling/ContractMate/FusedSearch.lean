import ContractMate.HybridSearch
import ContractMate.RankedSelection

/-!
# Reciprocal rank fusion

What a hybrid search is for: the best chunks of two rankings, by the sum of their
reciprocal ranks.  SQLite's search also carries chunks of neither ranking along, but only
where the limit cuts them off again.
-/

namespace ContractMate

namespace HybridSearch

open KnowledgeBase PythonText

/-! ## The fusion -/

section Fusion

variable {Score : Type} [Field Score]

/-- `1 / (60 + rank)`, for an item that has a rank. -/
def share (rank : Option Nat) : Score :=
  rank.elim 0 fun position => 1 / (60 + position)

/-- The scores of an exact domain. -/
def SearchScores.exact (scores : SearchScores Score) : SearchScores Score :=
  { scores with
    zero := 0, ofNat := Nat.cast, plus := fun first second => first + second
    dividedBy := fun first second => first / second }

theorem SearchScores.reciprocal_exact (scores : SearchScores Score) (rank : Option Nat) :
    scores.exact.reciprocal rank = share rank := by
  cases rank with
  | none => rfl
  | some position => simp [SearchScores.reciprocal, SearchScores.exact, share]

/-- The chunks that a search scores, with their scores. -/
abbrev scoredBy (scores : SearchScores Score) (database : Database Score)
    (search : Search Score) : List (Candidate Score) :=
  scoredChunks scores.exact (joined database search.workspaceId search.contractId) search

theorem scoredBy_nodup (scores : SearchScores Score) (database : Database Score)
    (search : Search Score) :
    ((scoredBy scores database search).map Candidate.id).Nodup := by
  rw [scoredBy, scoredChunks, List.map_map]
  exact (List.filter_sublist.map ChunkRow.id).nodup database.chunks.keys_nodup

variable [LinearOrder Score]

/-- `first` has the higher score, or the smaller identifier at the same score. -/
def ahead (score : Candidate Score → Score) (first second : Candidate Score) : Bool :=
  decide (score second < score first) ||
    (score first == score second && decide (first.id < second.id))

/-- The rank of an item by a score, counted from one, if it is among the pool best. -/
def rankAmong (score : Candidate Score → Score) (pool : Int) (items : List (Candidate Score))
    (item : Candidate Score) : Option Nat :=
  let rank := (items.countP fun other => ahead score other item) + 1
  if rank ≤ pool then some rank else none

def semanticRank (scored : List (Candidate Score)) (search : Search Score)
    (item : Candidate Score) : Option Nat :=
  rankAmong Candidate.semantic search.safePool scored item

/-- Items with a positive lexical score are ranked among themselves. -/
def lexicalRank (scored : List (Candidate Score)) (search : Search Score)
    (item : Candidate Score) : Option Nat :=
  if 0 < item.lexical then
    rankAmong Candidate.lexical search.safePool
      (scored.filter fun other => 0 < other.lexical) item
  else none

/-- The items that have a rank. -/
def fusionCandidates (scored : List (Candidate Score)) (search : Search Score) :
    List (Candidate Score) :=
  scored.filter fun item =>
    (semanticRank scored search item).isSome || (lexicalRank scored search item).isSome

/-- An item with its fused score. -/
def fusedHit (scored : List (Candidate Score)) (search : Search Score)
    (item : Candidate Score) : SearchHit Score where
  chunk := item.chunk
  semanticScore := item.semantic
  lexicalScore := item.lexical
  fusedScore := share (semanticRank scored search item) + share (lexicalRank scored search item)

/-- The first of the candidates, by fused score, semantic score and identifier. -/
def fusedSearch (scored : List (Candidate Score)) (search : Search Score) :
    List (SearchHit Score) :=
  bestHits search.safeLimit ((fusionCandidates scored search).map (fusedHit scored search))

end Fusion

/-! ## The orders -/

section Orders

variable {Score : Type} [LinearOrder Score]

/-- By descending score, then by identifier. -/
def scoreBefore (first second : Scoreᵒᵈ × String) : Bool :=
  decide (first.1 < second.1) || (first.1 == second.1 && decide (first.2 ≤ second.2))

theorem scoreBefore_order : RankOrder (@scoreBefore Score _) := by
  have ordered : RankOrder fun first second : Scoreᵒᵈ × String =>
      decide (first.1 < second.1) ||
        (first.1 == second.1 && decide (first.2 ≤ second.2)) := by
    convert RankOrder.of_linearOrder.lexicographic
  exact ordered

def scoreRank (score : Candidate Score → Score) (item : Candidate Score) :
    Scoreᵒᵈ × String :=
  (OrderDual.toDual (score item), item.id)

theorem rankedBy_eq (score : Candidate Score → Score) (pool : Int)
    (scored : List (Candidate Score)) :
    rankedBy score pool scored =
      (scored.insertionSort fun first second =>
        scoreBefore (scoreRank score first) (scoreRank score second) = true).take
          pool.toNat := by
  rw [rankedBy]
  congr 1
  apply insertionSort_congr
  intro first second
  simp only [scoreBefore, scoreRank, OrderDual.toDual_lt_toDual, Bool.or_eq_true,
    Bool.and_eq_true, decide_eq_true_eq, beq_iff_eq, OrderDual.toDual_inj]
  exact or_congr_right (and_congr_right fun _ => decide_eq_true_iff.symm)

/-- By descending fused score, descending semantic score and identifier. -/
def hitRankBefore (first second : Scoreᵒᵈ × Scoreᵒᵈ × String) : Bool :=
  decide (first.1 < second.1) || (first.1 == second.1 && scoreBefore first.2 second.2)

theorem hitRankBefore_order : RankOrder (@hitRankBefore Score _) :=
  scoreBefore_order.lexicographic

def hitRank (hit : SearchHit Score) : Scoreᵒᵈ × Scoreᵒᵈ × String :=
  (OrderDual.toDual hit.fusedScore, OrderDual.toDual hit.semanticScore, hit.chunk.id)

theorem bestHits_eq (limit : Int) (hits : List (SearchHit Score)) :
    bestHits limit hits =
      (hits.insertionSort fun first second =>
        hitRankBefore (hitRank first) (hitRank second) = true).take limit.toNat := by
  rw [bestHits]
  rfl

end Orders

/-! ## The two rankings -/

section Rankings

variable {Score : Type} {scored : List (Candidate Score)}

/-- The place of an item in a ranking, counted from one. -/
def rankIn (ranking : List (Candidate Score)) (item : Candidate Score) : Option Nat :=
  (ranking.findIdx? fun other => other.id = item.id).map (· + 1)

theorem findIdx?_congr {Item : Type} {first second : Item → Bool} {items : List Item}
    (same : ∀ item ∈ items, first item = second item) :
    items.findIdx? first = items.findIdx? second := by
  induction items with
  | nil => rfl
  | cons item rest induction =>
      rw [List.findIdx?_cons, List.findIdx?_cons, same item (by simp),
        induction fun other member => same other (by simp [member])]

theorem scoreRank_nodup (distinct : (scored.map Candidate.id).Nodup)
    (score : Candidate Score → Score) : (scored.map (scoreRank score)).Nodup := by
  apply List.Nodup.of_map Prod.snd
  rw [List.map_map]
  exact distinct

theorem id_injective (distinct : (scored.map Candidate.id).Nodup) {first second : Candidate Score}
    (member : first ∈ scored) (member' : second ∈ scored) (same : first.id = second.id) :
    first = second :=
  List.inj_on_of_nodup_map distinct member member' same

variable {item : Candidate Score}

theorem isSome_rankIn {ranking : List (Candidate Score)} :
    (rankIn ranking item).isSome = true ↔ item.id ∈ ranking.map Candidate.id := by
  rw [rankIn, Option.isSome_map, List.findIdx?_isSome, List.any_eq_true, List.mem_map]
  constructor
  · rintro ⟨other, member, same⟩
    exact ⟨other, member, of_decide_eq_true same⟩
  · rintro ⟨other, member, same⟩
    exact ⟨other, member, decide_eq_true same⟩

/-- An item has a rank where it is listed. -/
theorem isSome_rankIn_iff (distinct : (scored.map Candidate.id).Nodup)
    {ranking : List (Candidate Score)} (within : ∀ item ∈ ranking, item ∈ scored)
    (member : item ∈ scored) :
    (rankIn ranking item).isSome = true ↔ item ∈ ranking := by
  rw [isSome_rankIn, List.mem_map]
  constructor
  · rintro ⟨other, listed, same⟩
    exact id_injective distinct (within other listed) member same ▸ listed
  · intro listed
    exact ⟨item, listed, rfl⟩

variable [LinearOrder Score]

/-- Being ahead is to come before, and not after. -/
theorem ahead_eq (score : Candidate Score → Score) (first second : Candidate Score) :
    ahead score first second =
      (scoreBefore (scoreRank score first) (scoreRank score second) &&
        !scoreBefore (scoreRank score second) (scoreRank score first)) := by
  simp only [ahead, scoreBefore, scoreRank, OrderDual.toDual_lt_toDual]
  rcases lt_trichotomy (score first) (score second) with less | same | greater
  · simp [less, less.not_gt, less.ne]
  · simp only [same, lt_irrefl, decide_false, Bool.false_or, beq_self_eq_true, Bool.true_and]
    rw [Bool.eq_iff_iff, decide_eq_true_iff, Bool.and_eq_true, Bool.not_eq_true']
    constructor
    · exact fun before => ⟨decide_eq_true before.le, decide_eq_false (not_le.mpr before)⟩
    · exact fun both =>
        lt_of_le_not_ge (of_decide_eq_true both.1) (of_decide_eq_false both.2)
  · simp [greater, greater.le, greater.ne]

/-- The rank of an item is its place in the ranking. -/
theorem rankIn_rankedBy (distinct : (scored.map Candidate.id).Nodup)
    (score : Candidate Score → Score) (pool : Int) (member : item ∈ scored) :
    rankIn (rankedBy score pool scored) item = rankAmong score pool scored item := by
  have single : ∀ other ∈ scored, decide (other.id = item.id) = true ↔ other = item := by
    intro other inScored
    rw [decide_eq_true_eq]
    exact ⟨id_injective distinct inScored member, fun same => same ▸ rfl⟩
  rw [rankIn, rankedBy_eq, List.findIdx?_take,
    scoreBefore_order.findIdx?_sorted _ (scoreRank_nodup distinct score) member single]
  simp only [rankAmong, ahead_eq, Option.bind_some, Option.guard, decide_eq_true_eq]
  generalize scored.countP _ = place
  by_cases inside : place < pool.toNat
  · rw [if_pos inside, if_pos (by omega)]
    rfl
  · rw [if_neg inside, if_neg (by omega)]
    rfl

theorem rankedBy_nodup (distinct : (scored.map Candidate.id).Nodup)
    (score : Candidate Score → Score) (pool : Int) : (rankedBy score pool scored).Nodup := by
  rw [rankedBy]
  apply (List.take_sublist _ _).nodup
  exact (List.perm_insertionSort _ scored).nodup_iff.mpr distinct.of_map

/-- The items that are carried along are those of the two rankings as they are cut off. -/
theorem mem_byId_iff (distinct : (scored.map Candidate.id).Nodup) {search : Search Score}
    :
    item ∈ (byId (semanticRanked scored search ++ lexicalRanked scored search)).rows ↔
      item ∈ semanticRanked scored search ∨ item ∈ lexicalRanked scored search := by
  have within : ∀ other ∈ semanticRanked scored search ++ lexicalRanked scored search,
      other ∈ scored := by
    intro other member
    rcases List.mem_append.mp member with semantic | lexical
    · exact mem_rankedBy semantic
    · exact mem_rankedBy lexical
  constructor
  · intro member
    rcases RowTable.mem_foldl_put member with none_ | ranked
    · cases none_
    · exact List.mem_append.mp ranked
  · intro ranked
    have ranked := List.mem_append.mpr ranked
    have present : ((byId (semanticRanked scored search ++
        lexicalRanked scored search)).find? item.id).isSome = true :=
      RowTable.find?_isSome_foldl_put (.inl (List.mem_map_of_mem ranked))
    obtain ⟨other, found⟩ := Option.isSome_iff_exists.mp present
    have stored := RowTable.mem_of_find? found
    have origin : other ∈ scored := by
      rcases RowTable.mem_foldl_put stored with none_ | listed
      · cases none_
      · exact within other listed
    exact id_injective distinct origin (within item ranked) (RowTable.key_of_find? found) ▸ stored

section Lexical

variable [Field Score] {search : Search Score}

/-- The best chunks with a positive lexical score. -/
def lexicalPool (scored : List (Candidate Score)) (search : Search Score) :
    List (Candidate Score) :=
  rankedBy Candidate.lexical search.safePool (scored.filter fun item => 0 < item.lexical)

/-- The lexical ranking starts with the pool of the positive scores. -/
theorem lexicalRanked_split (distinct : (scored.map Candidate.id).Nodup)
    (search : Search Score) :
    ∃ rest, lexicalRanked scored search = lexicalPool scored search ++ rest ∧
      ∀ item ∈ rest, ¬ 0 < item.lexical := by
  have leads : ∀ first ∈ scored, ∀ second ∈ scored, decide (0 < first.lexical) = true →
      decide (0 < second.lexical) = false →
        scoreBefore (scoreRank Candidate.lexical first)
          (scoreRank Candidate.lexical second) = true := by
    intro first _ second _ positive other
    rw [decide_eq_true_eq] at positive
    rw [decide_eq_false_iff_not, not_lt] at other
    have less := other.trans_lt positive
    simp [scoreBefore, scoreRank, less]
  rw [lexicalRanked, lexicalPool, rankedBy_eq, rankedBy_eq,
    scoreBefore_order.sorted_split _ (scoreRank_nodup distinct _) _ leads, List.take_append]
  refine ⟨_, rfl, ?_⟩
  intro item member
  have sorted := List.mem_of_mem_take member
  rw [List.mem_insertionSort, List.mem_filter] at sorted
  simpa using sorted.2

theorem positive_of_lexicalPool {item : Candidate Score}
    (member : item ∈ lexicalPool scored search) : 0 < item.lexical := by
  have inside := mem_rankedBy member
  rw [List.mem_filter] at inside
  exact of_decide_eq_true inside.2

theorem rankIn_lexicalPool (distinct : (scored.map Candidate.id).Nodup) (search : Search Score)
    {item : Candidate Score} (member : item ∈ scored) :
    rankIn (lexicalPool scored search) item = lexicalRank scored search item := by
  have within : ∀ other ∈ lexicalPool scored search, other ∈ scored :=
    fun other listed => List.mem_of_mem_filter (mem_rankedBy listed)
  have among := (List.filter_sublist (p := fun other : Candidate Score =>
    decide (0 < other.lexical)).map Candidate.id).nodup distinct
  rw [lexicalRank]
  split
  · rename_i positive
    exact rankIn_rankedBy among _ _ (List.mem_filter.mpr ⟨member, by simpa using positive⟩)
  · rename_i unmatched
    rw [← Option.not_isSome_iff_eq_none, isSome_rankIn_iff distinct within member]
    exact fun listed => unmatched (positive_of_lexicalPool listed)

/-- The rank that the search gives an item by its words. -/
theorem lexicalRank_eq (distinct : (scored.map Candidate.id).Nodup) (search : Search Score)
    {item : Candidate Score} (member : item ∈ scored) :
    ((lexicalRanked scored search).findIdx? fun other =>
        other.id = item.id && decide (0 < other.lexical)).map (· + 1) =
      lexicalRank scored search item := by
  rw [← rankIn_lexicalPool distinct search member]
  obtain ⟨rest, split, others⟩ := lexicalRanked_split distinct search
  have none_ : (rest.findIdx? fun other =>
      other.id = item.id && decide (0 < other.lexical)) = none := by
    rw [List.findIdx?_eq_none_iff]
    intro other member
    simp [others other member]
  have same : ((lexicalPool scored search).findIdx? fun other =>
      other.id = item.id && decide (0 < other.lexical)) =
        (lexicalPool scored search).findIdx? fun other => other.id = item.id := by
    apply findIdx?_congr
    intro other member
    simp [positive_of_lexicalPool member]
  rw [split, List.findIdx?_append, none_, same, rankIn]
  simp

end Lexical

end Rankings

/-! ## The search is the fusion -/

section Refinement

variable {Score : Type} [Field Score] [LinearOrder Score]
  {scored : List (Candidate Score)} {search : Search Score}

variable {item : Candidate Score}

theorem candidateHit_eq (scores : SearchScores Score) (distinct : (scored.map Candidate.id).Nodup)
    (member : item ∈ scored) :
    candidateHit scores.exact (semanticRanked scored search) (lexicalRanked scored search) item =
      fusedHit scored search item := by
  have semantic : ((semanticRanked scored search).findIdx? fun other =>
      other.id = item.id).map (· + 1) = semanticRank scored search item :=
    rankIn_rankedBy distinct Candidate.semantic search.safePool member
  have lexical : ((lexicalRanked scored search).findIdx? fun other =>
      other.id = item.id && decide (scores.exact.zero < other.lexical)).map (· + 1) =
        lexicalRank scored search item :=
    lexicalRank_eq distinct search member
  rw [candidateHit, fusedHit, semantic, lexical, scores.reciprocal_exact,
    scores.reciprocal_exact]
  rfl

theorem mem_fusionCandidates (distinct : (scored.map Candidate.id).Nodup)
    (member : item ∈ scored) :
    item ∈ fusionCandidates scored search ↔
      item ∈ semanticRanked scored search ∨ item ∈ lexicalPool scored search := by
  have within : ∀ other ∈ lexicalPool scored search, other ∈ scored :=
    fun other listed => List.mem_of_mem_filter (mem_rankedBy listed)
  rw [fusionCandidates, List.mem_filter, Bool.or_eq_true, semanticRank,
    ← rankIn_rankedBy distinct Candidate.semantic _ member,
    ← rankIn_lexicalPool distinct search member,
    isSome_rankIn_iff distinct (fun _ => mem_rankedBy) member,
    isSome_rankIn_iff distinct within member]
  exact and_iff_right member

/-- An item that is carried along without a rank: the pools are full then. -/
theorem pool_of_unranked (distinct : (scored.map Candidate.id).Nodup)
    (member : item ∈ scored) (unranked : item ∉ fusionCandidates scored search) :
    search.safePool ≤ (fusionCandidates scored search).length := by
  have full : search.safePool ≤ scored.length := by
    by_contra fits
    have listed : item ∈ semanticRanked scored search :=
      mem_rankedBy_of_fit (not_le.mp fits).le member
    exact unranked ((mem_fusionCandidates distinct member).mpr (.inl listed))
  have length : (semanticRanked scored search).length = search.safePool.toNat := by
    rw [semanticRanked, rankedBy, List.length_take, List.length_insertionSort]
    omega
  have subset : semanticRanked scored search ⊆ fusionCandidates scored search := by
    intro other listed
    exact (mem_fusionCandidates distinct (mem_rankedBy listed)).mpr (.inl listed)
  have bound := (List.subperm_of_subset (rankedBy_nodup distinct _ _) subset).length_le
  rw [semanticRanked] at length
  omega

/-- The candidates are carried along. -/
theorem mem_carried (distinct : (scored.map Candidate.id).Nodup)
    (candidate : item ∈ fusionCandidates scored search) :
    item ∈ (byId (semanticRanked scored search ++ lexicalRanked scored search)).rows := by
  have member : item ∈ scored := List.mem_of_mem_filter candidate
  rw [mem_byId_iff distinct]
  rcases (mem_fusionCandidates distinct member).mp candidate with semantic | lexical
  · exact .inl semantic
  · obtain ⟨rest, split, _⟩ := lexicalRanked_split distinct search
    right
    rw [split]
    exact List.mem_append_left _ lexical

theorem hitRank_nodup {items : List (Candidate Score)}
    (distinct : (items.map Candidate.id).Nodup) :
    ((items.map (fusedHit scored search)).map hitRank).Nodup := by
  apply List.Nodup.of_map fun rank => rank.2.2
  rw [List.map_map, List.map_map]
  exact distinct

variable [IsStrictOrderedRing Score]

theorem share_nonneg (rank : Option Nat) : 0 ≤ (share rank : Score) := by
  cases rank with
  | none => exact le_refl 0
  | some position =>
      have positive : (0 : Score) < 60 + position := by positivity
      exact (one_div_pos.mpr positive).le

theorem share_pos {rank : Option Nat} (ranked : rank.isSome = true) : 0 < (share rank : Score) := by
  obtain ⟨position, rfl⟩ := Option.isSome_iff_exists.mp ranked
  have positive : (0 : Score) < 60 + position := by positivity
  exact one_div_pos.mpr positive

/-- An item has a positive fused score just if it has a rank. -/
theorem shares_pos_iff {semantic lexical : Option Nat} :
    0 < (share semantic + share lexical : Score) ↔
      semantic.isSome = true ∨ lexical.isSome = true := by
  constructor
  · intro positive
    by_contra unranked
    rw [not_or, Bool.not_eq_true, Bool.not_eq_true, Option.isSome_eq_false_iff,
      Option.isSome_eq_false_iff, Option.isNone_iff_eq_none, Option.isNone_iff_eq_none] at unranked
    rw [unranked.1, unranked.2] at positive
    simp [share] at positive
  · rintro (ranked | ranked)
    · exact add_pos_of_pos_of_nonneg (share_pos ranked) (share_nonneg lexical)
    · exact add_pos_of_nonneg_of_pos (share_nonneg semantic) (share_pos ranked)

theorem mem_fusionCandidates_iff (member : item ∈ scored) :
    item ∈ fusionCandidates scored search ↔ 0 < (fusedHit scored search item).fusedScore := by
  rw [fusionCandidates, List.mem_filter, Bool.or_eq_true, fusedHit, shares_pos_iff]
  exact and_iff_right member

/-- The hits of all items carried along, cut off at the limit, are those of the
candidates. -/
theorem bestHits_carried (distinct : (scored.map Candidate.id).Nodup) :
    bestHits search.safeLimit
        ((byId (semanticRanked scored search ++ lexicalRanked scored search)).rows.map
          (fusedHit scored search)) =
      fusedSearch scored search := by
  let carried := (byId (semanticRanked scored search ++ lexicalRanked scored search)).rows
  let ranked (hit : SearchHit Score) : Bool := decide (0 < hit.fusedScore)
  have within : ∀ item ∈ carried, item ∈ scored := by
    intro item member
    rcases (mem_byId_iff distinct).mp member with semantic | lexical
    · exact mem_rankedBy semantic
    · exact mem_rankedBy lexical
  have keys : ((carried.map (fusedHit scored search)).map hitRank).Nodup :=
    hitRank_nodup (RowTable.keys_nodup _)
  have leads : ∀ first ∈ carried.map (fusedHit scored search),
      ∀ second ∈ carried.map (fusedHit scored search), ranked first = true →
        ranked second = false → hitRankBefore (hitRank first) (hitRank second) = true := by
    intro first _ second _ positive other
    have less : second.fusedScore < first.fusedScore :=
      (not_lt.mp (of_decide_eq_false other)).trans_lt (of_decide_eq_true positive)
    simp [hitRankBefore, hitRank, less]
  have same : ∀ hit, hit ∈ (carried.map (fusedHit scored search)).filter ranked ↔
      hit ∈ (fusionCandidates scored search).map (fusedHit scored search) := by
    intro hit
    rw [List.mem_filter, List.mem_map, List.mem_map]
    constructor
    · rintro ⟨⟨item, member, rfl⟩, positive⟩
      exact ⟨item, (mem_fusionCandidates_iff (within item member)).mpr
        (of_decide_eq_true positive), rfl⟩
    · rintro ⟨item, candidate, rfl⟩
      have member := List.mem_of_mem_filter candidate
      exact ⟨⟨item, mem_carried distinct candidate, rfl⟩,
        decide_eq_true ((mem_fusionCandidates_iff member).mp candidate)⟩
  have distinctCandidates : (((fusionCandidates scored search).map
      (fusedHit scored search)).map hitRank).Nodup :=
    hitRank_nodup ((List.filter_sublist.map Candidate.id).nodup distinct)
  have distinctRanked : (((carried.map (fusedHit scored search)).filter ranked).map
      hitRank).Nodup :=
    (List.filter_sublist.map hitRank).nodup keys
  rw [fusedSearch, bestHits_eq, bestHits_eq,
    hitRankBefore_order.sorted_split hitRank keys ranked leads,
    (hitRankBefore_order.sorted_eq_iff hitRank distinctRanked distinctCandidates).mpr same,
    List.take_append]
  by_cases all : ∀ item ∈ carried, item ∈ fusionCandidates scored search
  · have none_ : ((carried.map (fusedHit scored search)).filter fun hit =>
        !ranked hit) = [] := by
      rw [List.filter_eq_nil_iff]
      intro hit member
      obtain ⟨item, inCarried, rfl⟩ := List.mem_map.mp member
      have positive := (mem_fusionCandidates_iff (within item inCarried)).mp
        (all item inCarried)
      simp [ranked, positive]
    rw [none_]
    simp
  · push Not at all
    obtain ⟨item, inCarried, unranked⟩ := all
    have bound := pool_of_unranked distinct (within item inCarried) unranked
    have enough : search.safeLimit.toNat - ((((fusionCandidates scored search).map
        (fusedHit scored search)).insertionSort fun first second =>
          hitRankBefore (hitRank first) (hitRank second) = true)).length = 0 := by
      have limits : search.safeLimit ≤ search.safePool := safeLimit_le_safePool
      rw [List.length_insertionSort, List.length_map]
      omega
    rw [enough, List.take_zero, List.append_nil]

theorem sqliteHybridSearch_eq (scores : SearchScores Score) (database : Database Score)
    (search : Search Score) :
    sqliteHybridSearch scores.exact database search =
      fusedSearch (scoredBy scores database search) search := by
  have distinct := scoredBy_nodup scores database search
  rw [← bestHits_carried distinct]
  apply congrArg (bestHits search.safeLimit)
  apply List.map_congr_left
  intro item member
  have carried := (mem_byId_iff distinct).mp member
  exact candidateHit_eq scores distinct (carried.elim mem_rankedBy mem_rankedBy)

/-- For every search, SQLite returns the first of the fused candidates; none twice, and
nothing else. -/
theorem sqlite_search_fused (scores : SearchScores Score) (database : Database Score)
    (search : Search Score) :
    sqliteHybridSearch scores.exact database search =
        fusedSearch (scoredBy scores database search) search ∧
      (sqliteHybridSearch scores.exact database search).length =
        min search.safeLimit.toNat
          (fusionCandidates (scoredBy scores database search) search).length ∧
      ((sqliteHybridSearch scores.exact database search).map fun hit => hit.chunk.id).Nodup ∧
      ∀ hit ∈ sqliteHybridSearch scores.exact database search,
        ∃ item ∈ fusionCandidates (scoredBy scores database search) search,
          hit = fusedHit (scoredBy scores database search) search item := by
  rw [sqliteHybridSearch_eq]
  refine ⟨rfl, ?_, ?_, ?_⟩
  · rw [fusedSearch, bestHits, List.length_take, List.length_insertionSort, List.length_map]
  · rw [fusedSearch, bestHits]
    apply ((List.take_sublist _ _).map _).nodup
    rw [((List.perm_insertionSort _ _).map _).nodup_iff, List.map_map]
    exact (List.filter_sublist.map Candidate.id).nodup (scoredBy_nodup scores database search)
  · intro hit member
    obtain ⟨item, candidate, rfl⟩ := List.mem_map.mp (mem_bestHits member)
    exact ⟨item, candidate, rfl⟩

end Refinement

/-! ## Three chunks -/

/-- Three chunks of a current version, two of which the pool holds. -/
def threeChunks : Database ℚ where
  contracts :=
    { rows := [{ id := "c", workspaceId := "w", title := none, status := ""
                 currentVersionId := some "v", createdAt := 0, updatedAt := 0 }]
      keys_nodup := by decide }
  indexes :=
    { rows := [{ id := "i", workspaceId := "w", contractId := "c", contractVersionId := "v"
                 embeddingProvider := "", embeddingModel := "", rerankerProvider := ""
                 rerankerModel := "", chunkingVersion := "", status := .ready }]
      keys_nodup := by decide }
  chunks :=
    { rows := [("x", 1), ("y", 2), ("z", 3)].map fun entry =>
        { id := entry.1, knowledgeIndexId := "i", workspaceId := "w", contractId := "c"
          contractVersionId := "v", ordinal := 0, content := entry.1.toList
          contentSha256 := "", pageStart := none, pageEnd := none, tokenCount := none
          metadata := [], embedding := [entry.2] }
      keys_nodup := by decide }

/-- Only the first chunk has the word that is asked for. -/
def threeScores : SearchScores ℚ where
  isFinite _ := true
  sha256 _ := ""
  zero := 0
  cosineSimilarity _ embedding := embedding.headD 0
  termOverlap query content := if query = content then 1 else 0
  cosineDistance _ _ := 0
  fromDistance _ := 0
  textMatches _ _ := false
  textRank _ _ := 0
  ofNat _ := 0
  plus _ _ := 0
  dividedBy _ _ := 0

def threeSearch : Search ℚ where
  workspaceId := "w"
  queryText := ['x']
  queryEmbedding := []
  limit := 2
  candidatePool := 2

theorem sqlite_search_fused_sample :
    sqliteHybridSearch threeScores.exact threeChunks threeSearch =
        fusedSearch (scoredBy threeScores threeChunks threeSearch) threeSearch ∧
      (sqliteHybridSearch threeScores.exact threeChunks threeSearch).map
          (fun hit => (hit.chunk.id, hit.fusedScore)) =
        [("z", 1 / 61), ("x", 1 / 61)] :=
  ⟨(sqlite_search_fused threeScores threeChunks threeSearch).1, by decide +kernel⟩

end HybridSearch

end ContractMate
