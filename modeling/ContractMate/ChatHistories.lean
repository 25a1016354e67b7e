import ContractMate.ChatTranscripts
import ContractMate.ConversationPrompts

/-!
# Chat histories

What a new message lets the agent see of its session: the end of the listed messages.
The listing is a page from the start, so that the end of a long session is not on it.
-/

namespace ContractMate

namespace ChatTranscripts

open ConversationPrompts (HistoryItem)

open ReadCommitted TransactionBlock PythonText

section Listing

variable (store : ChatStore) (workspaceId : String) (sessionId : Uuid)

/-- `list_messages`. -/
def listMessages (limit : Int := 200) (offset : Int := 0) : List ChatMessageRow :=
  (((store.messages.select fun row =>
    row.workspaceId = workspaceId && row.sessionId = sessionId &&
      (store.session? row.workspaceId row.sessionId).isSome).insertionSort
        fun first second => first.sequenceNumber ≤ second.sequenceNumber).drop
          (max 0 offset).toNat).take (max 1 (min limit 500)).toNat

/-- A message as an entry of the history. -/
def ChatMessageRow.historyItem (row : ChatMessageRow) : HistoryItem where
  role := some row.role.toList
  content := some row.content

/-- `messages[-13:-1]`. -/
def beforeLast (messages : List ChatMessageRow) : List ChatMessageRow :=
  messages.dropLast.drop (messages.length - 13)

/-- The history that `send_chat_message` passes to the agent. -/
def chatHistory : List HistoryItem :=
  ((beforeLast (listMessages store workspaceId sessionId)).filter fun row =>
    row.role = "user" || row.role = "assistant").map ChatMessageRow.historyItem

/-- `message_count` of `chat_session_response`. -/
def messageCount : Nat :=
  (listMessages store workspaceId sessionId).length

end Listing

/-- The agent is shown the last twelve of the earlier messages, and all messages are
counted. -/
structure SeesLatest (store : ChatStore) (workspaceId : String) (sessionId : Uuid)
    (earlier : List ChatMessageRow) : Prop where
  history : chatHistory store workspaceId sessionId =
    (earlier.drop (earlier.length - 12)).map ChatMessageRow.historyItem
  count : messageCount store workspaceId sessionId = earlier.length + 1

section Histories

variable {store : ChatStore} {workspaceId : String} {sessionId : Uuid}

theorem session_of_message (valid : ValidChat store) {row : ChatMessageRow}
    (stored : row ∈ store.messages.rows) :
    ∃ session, store.session? row.workspaceId row.sessionId = some session := by
  obtain ⟨session, found, owner⟩ := valid.owned row stored
  exact ⟨session, Option.filter_eq_some_iff.mpr ⟨found, decide_eq_true owner⟩⟩

/-- The messages of one session have one workspace. -/
theorem workspace_of_session (valid : ValidChat store) {first second : ChatMessageRow}
    (stored : first ∈ store.messages.rows) (stored' : second ∈ store.messages.rows)
    (same : first.sessionId = second.sessionId) : first.workspaceId = second.workspaceId := by
  obtain ⟨session, found, owner⟩ := valid.owned first stored
  obtain ⟨session', found', owner'⟩ := valid.owned second stored'
  rw [same, found'] at found
  cases found
  exact owner.symm.trans owner'

/-- The listing is the first page of the transcript. -/
theorem listMessages_eq (valid : ValidChat store) {message : ChatMessageRow}
    (stored : message ∈ store.transcript sessionId)
    (own : message.workspaceId = workspaceId) :
    listMessages store workspaceId sessionId = (store.transcript sessionId).take 200 := by
  have selected : (store.messages.select fun row =>
      row.workspaceId = workspaceId && row.sessionId = sessionId &&
        (store.session? row.workspaceId row.sessionId).isSome) =
      store.transcript sessionId := by
    apply List.filter_congr
    intro row member
    by_cases named : row.sessionId = sessionId
    · obtain ⟨session, found⟩ := session_of_message valid member
      obtain ⟨inMessages, sameSession⟩ := List.mem_filter.mp stored
      rw [decide_eq_true_eq] at sameSession
      have owner : row.workspaceId = workspaceId :=
        (workspace_of_session valid member inMessages (named.trans sameSession.symm)).trans own
      rw [found]
      simp [named, owner]
    · simp [named]
  have sorted : (store.transcript sessionId).Pairwise fun first second =>
      first.sequenceNumber ≤ second.sequenceNumber := by
    have numbers : ((store.transcript sessionId).map
        ChatMessageRow.sequenceNumber).Pairwise (· ≤ ·) := by
      rw [valid.numbered]
      exact List.pairwise_le_range'
    exact List.pairwise_map.mp numbers
  rw [listMessages, selected, sorted.insertionSort_eq]
  rfl

theorem seesLatest_of_length (valid : ValidChat store) {earlier : List ChatMessageRow}
    {message : ChatMessageRow} (split : store.transcript sessionId = earlier ++ [message])
    (own : message.workspaceId = workspaceId)
    (roles : ∀ row ∈ earlier, row.role = "user" ∨ row.role = "assistant") :
    SeesLatest store workspaceId sessionId earlier ↔ earlier.length + 1 ≤ 200 := by
  have listed := listMessages_eq valid (by rw [split]; simp) own
  rw [split] at listed
  constructor
  · intro sees
    have counted := sees.count
    rw [messageCount, listed, List.length_take, List.length_append,
      List.length_singleton] at counted
    omega
  · intro short
    have whole : (earlier ++ [message]).take 200 = earlier ++ [message] := by
      apply List.take_of_length_le
      simpa using short
    rw [whole] at listed
    constructor
    · have window : beforeLast (earlier ++ [message]) =
          earlier.drop (earlier.length - 12) := by
        rw [beforeLast, List.dropLast_concat, List.length_append, List.length_singleton]
        congr 1
      rw [chatHistory, listed, window]
      congr 1
      apply List.filter_eq_self.mpr
      intro row member
      simpa using roles row (List.mem_of_mem_drop member)
    · rw [messageCount, listed, List.length_append, List.length_singleton]

end Histories

/-- Whatever the run: when a new message is the latest of its session, the agent sees the
messages just before it, and the count is right, as long as the session has at most two
hundred messages. -/
theorem seesLatest_iff {sqlite : Bool} {sessions : RowTable ChatSessionRow.id}
    {steps : List ChatStep} {final : ChatState} (run : ChatRun sqlite sessions steps final)
    {step : ChatStep} (member : step ∈ steps) {request : MessageRequest}
    {message : ChatMessageRow} (ended : PoolSystem.ended? step = some (request, .ok message))
    {earlier : List ChatMessageRow}
    (latest : final.world.committed.transcript request.sessionId = earlier ++ [message])
    (roles : ∀ row ∈ earlier, row.role = "user" ∨ row.role = "assistant") :
    SeesLatest final.world.committed request.workspaceId request.sessionId earlier ↔
      earlier.length + 1 ≤ 200 := by
  have own : message.workspaceId = request.workspaceId := by
    rw [(stored_of_ended run member ended).2]
    rfl
  exact seesLatest_of_length (valid_of_run run) latest own roles

/-! ## A long session -/

section Sample

/-- The next question of the sample session. -/
def nextQuestion (position : Nat) : MessageRequest :=
  { question with drawn := ⟨position + 1, 0⟩ }

/-- The state between two questions. -/
structure Asked (count : Nat) (state : ChatState) : Prop where
  idle : state.threads 0 = none
  held : ∀ entry ∈ state.world.held, entry.1 = 0
  session : ∃ session, state.world.committed.session? "legal" ⟨0, 0⟩ = some session
  drawn : ∀ row ∈ state.world.committed.messages.rows, row.id.call ≤ count
  roles : ∀ row ∈ state.world.committed.messages.rows, row.role = "user"
  length : (state.world.committed.transcript ⟨0, 0⟩).length = count

/-- The state after one more event. -/
theorem run_next {steps : List ChatStep} {state after : ChatState}
    {event : PoolEvent MessageRequest (BlockChoice Exn) Empty}
    (run : ChatRun false sampleSessions steps state)
    (next : (chatEngine.system (appendMessage false)).next? state event = some after) :
    ChatRun false sampleSessions (steps ++ [⟨event, state⟩]) after := by
  have extended : (chatEngine.system (appendMessage false)).extend steps state [event] =
      some (steps ++ [⟨event, state⟩], after) := by
    simp only [PoolSystem.extend, next]
  exact PoolSystem.run_of_extend run extended

/-- The next number is free. -/
theorem violated?_next {store : ChatStore} (valid : ValidChat store) {row : ChatMessageRow}
    (absent : store.messages.find? row.id = none)
    (next : row.sequenceNumber = (store.transcript row.sessionId).length + 1) :
    store.violated? row = none := by
  have unnumbered : ¬ (store.messages.rows.any fun other =>
      other.sessionId = row.sessionId && other.sequenceNumber = row.sequenceNumber) =
        true := by
    rw [List.any_eq_true]
    rintro ⟨other, stored, same⟩
    simp only [Bool.and_eq_true, decide_eq_true_eq] at same
    have numbered : other.sequenceNumber ∈
        (store.transcript row.sessionId).map ChatMessageRow.sequenceNumber :=
      List.mem_map_of_mem (List.mem_filter.mpr ⟨stored, decide_eq_true same.1⟩)
    rw [valid.numbered, List.mem_range'_1, same.2, next] at numbered
    omega
  rw [ChatStore.violated?, absent, if_neg unnumbered]
  rfl

/-- One more question is asked and stored. -/
theorem ask_next {steps : List ChatStep} {state : ChatState} {count : Nat}
    (run : ChatRun false sampleSessions steps state) (asked : Asked count state) :
    ∃ more before after row, ChatRun false sampleSessions
        (steps ++ more ++ [⟨.stop 0, before⟩]) after ∧ Asked (count + 1) after ∧
      PoolSystem.ended? (⟨.stop 0, before⟩ : ChatStep) =
        some (nextQuestion count, .ok row) ∧
      after.world.committed.transcript ⟨0, 0⟩ =
        state.world.committed.transcript ⟨0, 0⟩ ++ [row] := by
  have valid := valid_of_run run
  obtain ⟨session, there⟩ := asked.session
  obtain ⟨found, owner⟩ := Option.filter_eq_some_iff.mp there
  let row := (nextQuestion count).row (count + 1)
  let committed := state.world.committed
  have last : committed.lastSequence "legal" ⟨0, 0⟩ = count := by
    rw [lastSequence_eq valid (by rw [there]; rfl), asked.length]
  have absent : committed.messages.find? row.id = none := by
    cases stored : committed.messages.find? row.id with
    | none => rfl
    | some other =>
        have bound := asked.drawn other (RowTable.mem_of_find? stored)
        rw [RowTable.key_of_find? stored] at bound
        exact absurd bound (Nat.not_succ_le_self count)
  have next : row.sequenceNumber = (committed.transcript row.sessionId).length + 1 :=
    congrArg (· + 1) asked.length.symm
  have free := violated?_next valid absent next
  have written : (committed.adding row 0).messages.find? row.id = some row := by
    apply RowTable.find?_of_mem
    rw [rows_adding absent]
    simp
  let body := appendMessage false
  obtain ⟨s₁, next₁, alone₁⟩ := Engine.Alone.of_start chatEngine body (nextQuestion count)
    asked.idle asked.held
  have here₁ : Engine.Alone 0 (nextQuestion count)
      (.call (.statement (.selectSession "legal" ⟨0, 0⟩ true)) _) [] committed s₁ := alone₁
  have found₁ : chatEngine.exec committed (.selectSession "legal" ⟨0, 0⟩ true) =
      .ok (some session.id, []) := by
    simp only [chatEngine, ChatStore.exec]
    rw [there]
    rfl
  obtain ⟨s₂, next₂, alone₂⟩ := here₁.executes chatEngine body found₁
  have here₂ : Engine.Alone 0 (nextQuestion count)
      (.call (.statement (.nextSequence "legal" ⟨0, 0⟩)) _) [] committed s₂ := alone₂
  have found₂ : chatEngine.exec committed (.nextSequence "legal" ⟨0, 0⟩) =
      .ok ((count + 1 : Nat), []) := by
    simp only [chatEngine, ChatStore.exec, last]
  obtain ⟨s₃, next₃, alone₃⟩ := here₂.executes chatEngine body found₂
  have here₃ : Engine.Alone 0 (nextQuestion count)
      (.call (.statement (.insertMessage row)) _) [] committed s₃ := alone₃
  have found₃ : chatEngine.exec committed (.insertMessage row) = .ok ((), [.message row]) := by
    simp only [chatEngine, ChatStore.exec]
    rw [free]
  obtain ⟨s₄, next₄, alone₄⟩ := here₃.executes chatEngine body found₃
  have here₄ : Engine.Alone 0 (nextQuestion count)
      (.call (.statement (.touchSession "legal" ⟨0, 0⟩ 0)) _) [.message row] committed s₄ :=
    alone₄
  have found₄ : chatEngine.exec (committed.apply (.message row))
      (.touchSession "legal" ⟨0, 0⟩ 0) = .ok ((), [.touch ⟨0, 0⟩ 0]) := by
    have kept : (committed.apply (.message row)).session? "legal" ⟨0, 0⟩ = some session := there
    simp only [chatEngine, ChatStore.exec, kept]
  obtain ⟨s₅, next₅, alone₅⟩ := here₄.executes chatEngine body found₄
  have here₅ : Engine.Alone 0 (nextQuestion count) (.call .commit _)
      [.message row, .touch ⟨0, 0⟩ 0] committed s₅ := alone₅
  obtain ⟨s₆, next₆, alone₆⟩ := here₅.commits chatEngine body
  have here₆ : Engine.Alone 0 (nextQuestion count)
      (.call (.statement (.selectMessage "legal" row.id)) _) [] (committed.adding row 0) s₆ :=
    alone₆
  have found₆ : chatEngine.exec (committed.adding row 0) (.selectMessage "legal" row.id) =
      .ok (some row, []) := by
    simp only [chatEngine, ChatStore.exec]
    rw [written]
    rfl
  obtain ⟨s₇, next₇, alone₇⟩ := here₆.executes chatEngine body found₆
  have here₇ : Engine.Alone 0 (nextQuestion count) (.done (.ok row)) []
      (committed.adding row 0) s₇ := alone₇
  obtain ⟨after, next₈, idle, same⟩ := here₇.stops chatEngine body
  have reached := run_next (run_next (run_next (run_next (run_next (run_next (run_next
    (run_next run next₁) next₂) next₃) next₄) next₅) next₆) next₇) next₈
  have stored : after.world.committed = committed.adding row 0 := by
    rw [same, here₇.committed]
  have transcript : after.world.committed.transcript ⟨0, 0⟩ =
      committed.transcript ⟨0, 0⟩ ++ [row] := by
    rw [stored, transcript_adding absent]
    exact if_pos rfl
  refine ⟨[⟨.start 0 (nextQuestion count), state⟩, ⟨.call 0 .executes, s₁⟩,
    ⟨.call 0 .executes, s₂⟩, ⟨.call 0 .executes, s₃⟩, ⟨.call 0 .executes, s₄⟩,
    ⟨.call 0 .executes, s₅⟩, ⟨.call 0 .executes, s₆⟩], s₇, after, row, ?_, ?_, ?_, transcript⟩
  · simpa only [List.append_assoc, List.cons_append, List.nil_append] using reached
  · constructor
    · exact idle
    · rw [same]
      exact here₇.held
    · have grows : GrowsTo committed (committed.adding row 0) :=
        (valid_adding valid absent found (of_decide_eq_true owner) next).2
      rw [stored]
      exact Option.isSome_iff_exists.mp (grows.session? (by rw [there]; rfl))
    · rw [stored, rows_adding absent]
      intro other member
      rcases List.mem_append.mp member with earlier | new
      · exact (asked.drawn other earlier).trans (Nat.le_succ count)
      · rw [List.mem_singleton.mp new]
        exact Nat.le_refl _
    · rw [stored, rows_adding absent]
      intro other member
      rcases List.mem_append.mp member with earlier | new
      · exact asked.roles other earlier
      · rw [List.mem_singleton.mp new]
        rfl
    · rw [transcript, List.length_append, asked.length]
      rfl
  · simp only [PoolSystem.ended?, here₇.stands]

/-- A session of any length. -/
theorem ask_many (count : Nat) : ∃ steps state, ChatRun false sampleSessions steps state ∧
    Asked count state := by
  induction count with
  | zero =>
      refine ⟨[], _, .nil, ?_⟩
      constructor
      · rfl
      · nofun
      · exact ⟨_, rfl⟩
      · nofun
      · nofun
      · rfl
  | succ count induction =>
      obtain ⟨steps, state, run, asked⟩ := induction
      obtain ⟨_, _, after, _, longer, asked, _⟩ := ask_next run asked
      exact ⟨_, after, longer, asked⟩

/-- With two hundred earlier messages the latest ones are not listed any more. -/
theorem long_session_unseen :
    ¬ ∀ (sqlite : Bool) (sessions : RowTable ChatSessionRow.id) (steps : List ChatStep)
      (final : ChatState), ChatRun sqlite sessions steps final →
      ∀ step ∈ steps, ∀ request message,
        PoolSystem.ended? step = some (request, .ok message) →
      ∀ earlier, final.world.committed.transcript request.sessionId = earlier ++ [message] →
        (∀ row ∈ earlier, row.role = "user" ∨ row.role = "assistant") →
          SeesLatest final.world.committed request.workspaceId request.sessionId earlier := by
  intro claimed
  obtain ⟨steps, state, run, asked⟩ := ask_many 200
  obtain ⟨more, before, after, row, longer, _, ended, latest⟩ := ask_next run asked
  have roles : ∀ other ∈ state.world.committed.transcript ⟨0, 0⟩,
      other.role = "user" ∨ other.role = "assistant" :=
    fun other member => .inl (asked.roles other (List.mem_of_mem_filter member))
  have sees := claimed false sampleSessions _ after longer ⟨.stop 0, before⟩ (by simp)
    (nextQuestion 200) row ended _ latest roles
  have own : row.workspaceId = "legal" := by
    rw [(stored_of_ended longer (by simp) ended).2]
    rfl
  have short := (seesLatest_of_length (valid_of_run longer) latest own roles).mp sees
  rw [asked.length] at short
  omega

/-- In a short session the agent sees all of it. -/
theorem seesLatest_sample :
    ∃ steps final earlier, ChatRun false sampleSessions steps final ∧ earlier.length = 20 ∧
      SeesLatest final.world.committed "legal" ⟨0, 0⟩ earlier := by
  obtain ⟨steps, state, run, asked⟩ := ask_many 20
  obtain ⟨more, before, after, row, longer, _, ended, latest⟩ := ask_next run asked
  have roles : ∀ other ∈ state.world.committed.transcript ⟨0, 0⟩,
      other.role = "user" ∨ other.role = "assistant" :=
    fun other member => .inl (asked.roles other (List.mem_of_mem_filter member))
  refine ⟨_, after, _, longer, asked.length, ?_⟩
  apply (seesLatest_iff longer (by simp) ended latest roles).mpr
  rw [asked.length]
  decide

end Sample

end ChatTranscripts

end ContractMate
