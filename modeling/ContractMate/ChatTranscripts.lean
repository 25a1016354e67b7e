import ContractMate.PythonText
import ContractMate.ReviewJobs
import ContractMate.RowWrites

/-!
# Chat transcripts

`append_message`, any number of calls at once.  A call locks its session's row, on SQLite
the whole database, counts the messages and inserts the next one, so that the messages of
a session are numbered without gaps in the order of the commits.
-/

namespace ContractMate

namespace ChatTranscripts

open ReadCommitted TransactionBlock PythonText

/-- `chat_sessions`. -/
structure ChatSessionRow where
  id : Uuid
  workspaceId : String
  updatedAt : Int := 0
deriving DecidableEq, Repr

/-- `chat_messages`; citations and metadata are kept as JSON texts. -/
structure ChatMessageRow where
  id : Uuid
  workspaceId : String
  sessionId : Uuid
  sequenceNumber : Nat
  role : String
  content : Text
  citations : String
  modelProvider : Option String
  modelName : Option String
  metadata : String
deriving DecidableEq, Repr

/-- The arguments of `append_message`, the identifier it draws and its reading of the
clock. -/
structure MessageRequest where
  drawn : Uuid
  workspaceId : String
  sessionId : Uuid
  role : String
  content : Text
  citations : String := "[]"
  modelProvider : Option String := none
  modelName : Option String := none
  metadata : String := "\x7b\x7d"
  stamp : Int := 0
deriving DecidableEq, Repr

inductive ChatCall where
  | beginImmediate
  /-- `SELECT id … WHERE workspace_id = ? AND id = ?`, on PostgreSQL `FOR UPDATE` -/
  | selectSession (workspaceId : String) (sessionId : Uuid) (forUpdate : Bool)
  /-- `SELECT COALESCE(MAX(sequence_number), 0) + 1 …` -/
  | nextSequence (workspaceId : String) (sessionId : Uuid)
  | insertMessage (row : ChatMessageRow)
  /-- `UPDATE chat_sessions SET updated_at …` -/
  | touchSession (workspaceId : String) (sessionId : Uuid) (stamp : Int)
  | selectMessage (workspaceId : String) (messageId : Uuid)
deriving DecidableEq, Repr

def ChatCall.Ret : ChatCall → Type
  | beginImmediate => Unit
  | selectSession _ _ _ => Option Uuid
  | nextSequence _ _ => Nat
  | insertMessage _ => Unit
  | touchSession _ _ _ => Unit
  | selectMessage _ _ => Option ChatMessageRow

abbrev ChatBody := Prog ChatCall ChatCall.Ret Exn

abbrev ChatProg := Prog (BlockCall ChatCall) (BlockCall.Reply ChatCall.Ret) Exn

def selectSession (workspaceId : String) (sessionId : Uuid) (forUpdate : Bool) :
    ChatBody (Option Uuid) :=
  Prog.perform (ChatCall.selectSession workspaceId sessionId forUpdate)

def nextSequence (workspaceId : String) (sessionId : Uuid) : ChatBody Nat :=
  Prog.perform (ChatCall.nextSequence workspaceId sessionId)

def insertMessage (row : ChatMessageRow) : ChatBody Unit :=
  Prog.perform (ChatCall.insertMessage row)

def touchSession (workspaceId : String) (sessionId : Uuid) (stamp : Int) : ChatBody Unit :=
  Prog.perform (ChatCall.touchSession workspaceId sessionId stamp)

def selectMessage (workspaceId : String) (messageId : Uuid) :
    ChatBody (Option ChatMessageRow) :=
  Prog.perform (ChatCall.selectMessage workspaceId messageId)

/-- The row of a request. -/
def MessageRequest.row (request : MessageRequest) (sequenceNumber : Nat) : ChatMessageRow where
  id := request.drawn
  workspaceId := request.workspaceId
  sessionId := request.sessionId
  sequenceNumber := sequenceNumber
  role := request.role
  content := strip request.content
  citations := request.citations
  modelProvider := request.modelProvider
  modelName := request.modelName
  metadata := request.metadata

def MessageRequest.validRole (request : MessageRequest) : Bool :=
  request.role = "system" || request.role = "user" || request.role = "assistant"

section Programs

variable (sqlite : Bool) (request : MessageRequest)

/-- The insert after the count. -/
def writeMessage (sequenceNumber : Nat) : ChatBody Unit := do
  let _ ← insertMessage (request.row sequenceNumber)
  touchSession request.workspaceId request.sessionId request.stamp

/-- The block of `append_message`. -/
def appendBody : ChatBody Unit := do
  let session ← selectSession request.workspaceId request.sessionId (!sqlite)
  match session with
  | none => Prog.raise ⟨.otherError, "'Chat session not found'"⟩
  | some _ => do
      let sequenceNumber ← nextSequence request.workspaceId request.sessionId
      writeMessage request sequenceNumber

/-- What `append_message` makes of the row that it reads back. -/
def createdMessage : Option ChatMessageRow → ChatProg ChatMessageRow
  | some message => pure message
  | none => Prog.raise (.runtimeError "Chat message could not be created")

def appendMessage : ChatProg ChatMessageRow :=
  if !request.validRole then Prog.raise (.valueError "Invalid chat message role")
  else if strip request.content = [] then
    Prog.raise (.valueError "Chat message content is required")
  else do
    let _ ← transaction (if sqlite then some .beginImmediate else none)
      (appendBody sqlite request)
    let message ← statements (selectMessage request.workspaceId request.drawn)
    createdMessage message

end Programs

/-! ## The tables -/

structure ChatStore where
  sessions : RowTable ChatSessionRow.id := .empty
  messages : RowTable ChatMessageRow.id := .empty

inductive ChatWrite where
  | message (row : ChatMessageRow)
  | touch (sessionId : Uuid) (stamp : Int)
deriving DecidableEq, Repr

inductive ChatLock where
  | database
  | session (sessionId : Uuid)
  | message (messageId : Uuid)
  | sequence (sessionId : Uuid) (sequenceNumber : Nat)
deriving DecidableEq, Repr

namespace ChatStore

variable (store : ChatStore)

def apply : ChatWrite → ChatStore
  | .message row => { store with messages := store.messages.insertIgnore row }
  | .touch sessionId stamp =>
      { store with
        sessions := store.sessions.updateWhere (fun row => row.id = sessionId)
          ⟨fun row => { row with updatedAt := stamp }, fun _ => rfl⟩ }

/-- The session's row, in its workspace. -/
def session? (workspaceId : String) (sessionId : Uuid) : Option ChatSessionRow :=
  (store.sessions.find? sessionId).filter fun row => row.workspaceId = workspaceId

/-- The messages of a session, in the order of their commits. -/
def transcript (sessionId : Uuid) : List ChatMessageRow :=
  store.messages.rows.filter fun row => row.sessionId = sessionId

/-- `COALESCE(MAX(sequence_number), 0)` -/
def lastSequence (workspaceId : String) (sessionId : Uuid) : Nat :=
  ((store.messages.rows.filter fun row =>
    row.workspaceId = workspaceId && row.sessionId = sessionId).map
      ChatMessageRow.sequenceNumber).foldl max 0

/-- The unique constraint that an insert violates. -/
def violated? (row : ChatMessageRow) : Option Exn :=
  if (store.messages.find? row.id).isSome then
    some (Exn.uniqueViolation "chat_messages_pkey")
  else if store.messages.rows.any fun other =>
      other.sessionId = row.sessionId && other.sequenceNumber = row.sequenceNumber then
    some (Exn.uniqueViolation "chat_messages_session_id_sequence_number_key")
  else none

def exec : (request : ChatCall) → Except Exn (request.Ret × List ChatWrite)
  | .beginImmediate => .ok ((), [])
  | .selectSession workspaceId sessionId _ =>
      .ok ((store.session? workspaceId sessionId).map ChatSessionRow.id, [])
  | .nextSequence workspaceId sessionId =>
      .ok ((store.lastSequence workspaceId sessionId + 1 : Nat), [])
  | .insertMessage row =>
      match store.violated? row with
      | some error => .error error
      | none => .ok ((), [.message row])
  | .touchSession workspaceId sessionId stamp =>
      match store.session? workspaceId sessionId with
      | some _ => .ok ((), [.touch sessionId stamp])
      | none => .ok ((), [])
  | .selectMessage workspaceId messageId =>
      .ok ((store.messages.find? messageId).filter fun row => row.workspaceId = workspaceId, [])

/-- Rows that are locked or updated, and the keys of new ones. -/
def locks : ChatCall → List ChatLock
  | .beginImmediate => [.database]
  | .selectSession workspaceId sessionId forUpdate =>
      if forUpdate && (store.session? workspaceId sessionId).isSome then [.session sessionId]
      else []
  | .touchSession workspaceId sessionId _ =>
      if (store.session? workspaceId sessionId).isSome then [.session sessionId] else []
  | .insertMessage row => [.message row.id, .sequence row.sessionId row.sequenceNumber]
  | .nextSequence _ _ | .selectMessage _ _ => []

end ChatStore

def chatEngine : Engine ChatCall ChatCall.Ret Exn ChatStore ChatWrite ChatLock where
  locks := ChatStore.locks
  exec := ChatStore.exec
  apply := ChatStore.apply

abbrev ChatStep := PoolStep MessageRequest (BlockCall ChatCall) (BlockCall.Reply ChatCall.Ret)
  Exn ChatMessageRow (World ChatStore ChatWrite ChatLock) (BlockChoice Exn) Empty

abbrev ChatState := PoolState MessageRequest (BlockCall ChatCall)
  (BlockCall.Reply ChatCall.Ret) Exn ChatMessageRow (World ChatStore ChatWrite ChatLock)

/-- Runs on sessions without messages. -/
abbrev ChatRun (sqlite : Bool) (sessions : RowTable ChatSessionRow.id) :
    List ChatStep → ChatState → Prop :=
  (chatEngine.system (appendMessage sqlite)).Run { committed := { sessions } }

/-- The transcripts are numbered without gaps in the order of the commits, and hold the
message of every call that has returned. -/
structure GapFree (steps : List ChatStep) (final : ChatState) : Prop where
  numbered : ∀ sessionId, (final.world.committed.transcript sessionId).map
    ChatMessageRow.sequenceNumber =
      List.range' 1 (final.world.committed.transcript sessionId).length
  present : ∀ step ∈ steps, ∀ request message,
    PoolSystem.ended? step = some (request, .ok message) →
      message ∈ final.world.committed.transcript request.sessionId ∧
        message = request.row message.sequenceNumber
  ordered : ∀ step ∈ steps, ∀ sessionId,
    step.before.world.committed.transcript sessionId <+:
      final.world.committed.transcript sessionId

/-! ## Numbering -/

/-- What holds of the tables. -/
structure ValidChat (store : ChatStore) : Prop where
  numbered : ∀ sessionId, (store.transcript sessionId).map ChatMessageRow.sequenceNumber =
    List.range' 1 (store.transcript sessionId).length
  owned : ∀ row ∈ store.messages.rows, ∃ session,
    store.sessions.find? row.sessionId = some session ∧ session.workspaceId = row.workspaceId

/-- How the tables grow. -/
structure GrowsTo (first second : ChatStore) : Prop where
  sessions : ∀ sessionId session, first.sessions.find? sessionId = some session → ∃ later,
    second.sessions.find? sessionId = some later ∧ later.workspaceId = session.workspaceId
  messages : first.messages.rows <+: second.messages.rows

theorem GrowsTo.refl (store : ChatStore) : GrowsTo store store :=
  ⟨fun _ session found => ⟨session, found, rfl⟩, List.prefix_refl _⟩

theorem GrowsTo.trans {first second third : ChatStore} (earlier : GrowsTo first second)
    (later : GrowsTo second third) : GrowsTo first third := by
  refine ⟨?_, earlier.messages.trans later.messages⟩
  intro sessionId session found
  obtain ⟨middle, found, same⟩ := earlier.sessions sessionId session found
  obtain ⟨last, found, same'⟩ := later.sessions sessionId middle found
  exact ⟨last, found, same'.trans same⟩

/-- A lock on a session guards its transcript, and SQLite's lock guards them all. -/
def chatDiscipline (sqlite : Bool) :
    Discipline MessageRequest ChatCall Exn ChatStore ChatLock where
  valid := ValidChat
  evolves := GrowsTo
  Part
    | .message _ => Option ChatMessageRow
    | _ => List ChatMessageRow
  part
    | .database, store => if sqlite then store.messages.rows else []
    | .session sessionId, store => store.transcript sessionId
    | .message messageId, store => store.messages.find? messageId
    | .sequence _ _, _ => []
  evolves_refl := GrowsTo.refl
  evolves_trans := GrowsTo.trans

section Stores

variable {store later : ChatStore} {sessionId : Uuid} {row : ChatMessageRow} {stamp : Int}

theorem GrowsTo.session? {workspaceId : String} (grows : GrowsTo store later)
    (there : (store.session? workspaceId sessionId).isSome = true) :
    (later.session? workspaceId sessionId).isSome = true := by
  obtain ⟨session, found⟩ := Option.isSome_iff_exists.mp there
  obtain ⟨found, own⟩ := Option.filter_eq_some_iff.mp found
  obtain ⟨last, kept, same⟩ := grows.sessions sessionId session found
  have own : session.workspaceId = workspaceId := by simpa using own
  rw [ChatStore.session?, kept, Option.filter_some, if_pos]
  · rfl
  · simp [same, own]

theorem GrowsTo.find? {messageId : Uuid} (grows : GrowsTo store later)
    (found : store.messages.find? messageId = some row) :
    later.messages.find? messageId = some row := by
  obtain ⟨more, same⟩ := grows.messages
  rw [RowTable.find?, ← same, List.find?_append]
  rw [RowTable.find?] at found
  rw [found]
  rfl

theorem foldl_max_range' (count : Nat) : (List.range' 1 count).foldl max 0 = count := by
  induction count with
  | zero => rfl
  | succ count induction =>
      rw [List.range'_1_concat, List.foldl_append, induction]
      simp only [List.foldl_cons, List.foldl_nil]
      omega

/-- The greatest number of a transcript is its length. -/
theorem lastSequence_eq {workspaceId : String} (valid : ValidChat store)
    (there : (store.session? workspaceId sessionId).isSome = true) :
    store.lastSequence workspaceId sessionId = (store.transcript sessionId).length := by
  obtain ⟨session, found⟩ := Option.isSome_iff_exists.mp there
  obtain ⟨found, own⟩ := Option.filter_eq_some_iff.mp found
  have own : session.workspaceId = workspaceId := by simpa using own
  have same : (store.messages.rows.filter fun row =>
      row.workspaceId = workspaceId && row.sessionId = sessionId) =
        store.transcript sessionId := by
    apply List.filter_congr
    intro row member
    by_cases here : row.sessionId = sessionId
    · obtain ⟨owner, found', workspace⟩ := valid.owned row member
      rw [here, found] at found'
      cases found'
      simp [here, ← workspace, own]
    · simp [here]
  rw [ChatStore.lastSequence, same, valid.numbered, foldl_max_range']

/-- The store after the transaction of a message. -/
def ChatStore.adding (store : ChatStore) (row : ChatMessageRow) (stamp : Int) : ChatStore :=
  (store.apply (.message row)).apply (.touch row.sessionId stamp)

theorem rows_adding (absent : store.messages.find? row.id = none) :
    (store.adding row stamp).messages.rows = store.messages.rows ++ [row] := by
  have inserted : (store.messages.insert? row).isSome = true :=
    RowTable.insert?_isSome_iff.mpr absent
  obtain ⟨messages, inserted⟩ := Option.isSome_iff_exists.mp inserted
  simp only [ChatStore.adding, ChatStore.apply, RowTable.insertIgnore, inserted,
    Option.getD_some]
  exact RowTable.rows_of_insert? inserted

theorem transcript_adding (absent : store.messages.find? row.id = none) :
    (store.adding row stamp).transcript sessionId =
      if row.sessionId = sessionId then store.transcript sessionId ++ [row]
      else store.transcript sessionId := by
  rw [ChatStore.transcript, rows_adding absent, List.filter_append]
  by_cases same : row.sessionId = sessionId
  · rw [if_pos same]
    simp [same, ChatStore.transcript]
  · rw [if_neg same]
    simp [same, ChatStore.transcript]

theorem find?_sessions_adding (other : Uuid) :
    (store.adding row stamp).sessions.find? other =
      (store.sessions.find? other).map fun session =>
        if session.id = row.sessionId then { session with updatedAt := stamp } else session := by
  simp only [ChatStore.adding, ChatStore.apply, RowTable.find?_updateWhere, decide_eq_true_eq]

/-- The next message keeps the numbering. -/
theorem valid_adding {session : ChatSessionRow} (valid : ValidChat store)
    (absent : store.messages.find? row.id = none)
    (found : store.sessions.find? row.sessionId = some session)
    (own : session.workspaceId = row.workspaceId)
    (next : row.sequenceNumber = (store.transcript row.sessionId).length + 1) :
    ValidChat (store.adding row stamp) ∧ GrowsTo store (store.adding row stamp) := by
  have sessions (other : Uuid) (old : ChatSessionRow)
      (here : store.sessions.find? other = some old) : ∃ last,
      (store.adding row stamp).sessions.find? other = some last ∧
        last.workspaceId = old.workspaceId := by
    refine ⟨_, by rw [find?_sessions_adding, here]; rfl, ?_⟩
    dsimp only
    split_ifs <;> rfl
  refine ⟨⟨?_, ?_⟩, sessions, ?_⟩
  · intro other
    rw [transcript_adding absent]
    split_ifs with same
    · subst same
      rw [List.map_append, valid.numbered, List.length_append, List.length_singleton,
        List.range'_1_concat]
      simp [next, Nat.add_comm]
    · exact valid.numbered other
  · intro message member
    rw [rows_adding absent] at member
    rcases List.mem_append.mp member with earlier | new
    · obtain ⟨owner, here, workspace⟩ := valid.owned message earlier
      obtain ⟨last, kept, same⟩ := sessions _ owner here
      exact ⟨last, kept, same.trans workspace⟩
    · rw [List.mem_singleton] at new
      subst new
      obtain ⟨last, kept, same⟩ := sessions _ session found
      exact ⟨last, kept, same.trans own⟩
  · rw [rows_adding absent]
    exact List.prefix_append _ _

end Stores

/-! ## A call -/

section Safety

variable {sqlite : Bool} {request : MessageRequest} {here : Session ChatStore ChatWrite ChatLock}
  {sequenceNumber : Nat}

/-- The lock that guards the session's transcript is held. -/
def Guarded (sqlite : Bool) (sessionId : Uuid) (held : List ChatLock) : Prop :=
  if sqlite then ChatLock.database ∈ held else ChatLock.session sessionId ∈ held

variable {store : ChatStore}

theorem transcript_of_guarded {sessionId : Uuid}
    (guarded : Guarded sqlite sessionId here.held)
    (others : Meanwhile (chatDiscipline sqlite) here store) :
    store.transcript sessionId = here.committed.transcript sessionId := by
  cases sqlite with
  | false => exact others.untouched (.session sessionId) guarded
  | true =>
      have rows : store.messages.rows = here.committed.messages.rows :=
        others.untouched .database guarded
      rw [ChatStore.transcript, rows]
      rfl

/-- The number has been counted, the session is there, and nothing is written yet. -/
structure Counted (sqlite : Bool) (request : MessageRequest) (sequenceNumber : Nat)
    (here : Session ChatStore ChatWrite ChatLock) : Prop where
  unwritten : here.pending = []
  guarded : Guarded sqlite request.sessionId here.held
  there : (here.committed.session? request.workspaceId request.sessionId).isSome = true
  next : sequenceNumber = (here.committed.transcript request.sessionId).length + 1

theorem Counted.at_ (counted : Counted sqlite request sequenceNumber here)
    (others : Meanwhile (chatDiscipline sqlite) here store) :
    Counted sqlite request sequenceNumber (here.at_ store) where
  unwritten := counted.unwritten
  guarded := counted.guarded
  there := others.evolves.session? counted.there
  next := by
    have kept := transcript_of_guarded counted.guarded others
    exact kept ▸ counted.next

/-- The message is written and can be committed. -/
structure Inserted (sqlite : Bool) (request : MessageRequest) (sequenceNumber : Nat)
    (here : Session ChatStore ChatWrite ChatLock) : Prop where
  pending : here.pending = [.message (request.row sequenceNumber)]
  guarded : Guarded sqlite request.sessionId here.held
  locked : ChatLock.message request.drawn ∈ here.held
  there : (here.committed.session? request.workspaceId request.sessionId).isSome = true
  next : sequenceNumber = (here.committed.transcript request.sessionId).length + 1
  absent : here.committed.messages.find? request.drawn = none

theorem Inserted.at_ (inserted : Inserted sqlite request sequenceNumber here)
    (others : Meanwhile (chatDiscipline sqlite) here store) :
    Inserted sqlite request sequenceNumber (here.at_ store) where
  pending := inserted.pending
  guarded := inserted.guarded
  locked := inserted.locked
  there := others.evolves.session? inserted.there
  next := by
    have kept := transcript_of_guarded inserted.guarded others
    exact kept ▸ inserted.next
  absent := by
    have kept := others.untouched (.message request.drawn) inserted.locked
    exact kept.trans inserted.absent

/-- The transaction is complete. -/
structure Complete (sqlite : Bool) (request : MessageRequest)
    (here : Session ChatStore ChatWrite ChatLock) : Prop where
  held : ChatLock.session request.sessionId ∈ here.held
  locked : ChatLock.message request.drawn ∈ here.held
  database : sqlite = true → ChatLock.database ∈ here.held
  there : (here.committed.session? request.workspaceId request.sessionId).isSome = true
  absent : here.committed.messages.find? request.drawn = none
  view : chatEngine.view here = here.committed.adding
    (request.row ((here.committed.transcript request.sessionId).length + 1)) request.stamp

theorem Inserted.view (inserted : Inserted sqlite request sequenceNumber here) :
    chatEngine.view here = here.committed.apply (.message (request.row sequenceNumber)) := by
  simp only [Engine.view, inserted.pending]
  rfl

theorem safe_touchSession (inserted : Inserted sqlite request sequenceNumber here) :
    Safe chatEngine (chatDiscipline sqlite) request
      (Ends (fun _ => True) fun _ => Complete sqlite request)
      (statements (touchSession request.workspaceId request.sessionId request.stamp)) here := by
  apply safe_perform (fun _ _ => trivial)
  intro seen others _
  have inserted := inserted.at_ others
  obtain ⟨session, found⟩ := Option.isSome_iff_exists.mp inserted.there
  have there : (seen.apply (.message (request.row sequenceNumber))).session?
      request.workspaceId request.sessionId = some session := found
  have view : chatEngine.view (here.at_ seen) =
      seen.apply (.message (request.row sequenceNumber)) := inserted.view
  rw [view]
  simp only [chatEngine, ChatStore.exec, ChatStore.locks, there, Option.isSome_some, if_true]
  intro later more
  have kept : Meanwhile (chatDiscipline sqlite) (here.at_ seen) later :=
    ⟨more.valid, more.evolves, fun lock held =>
      more.untouched lock (List.mem_append_right _ held)⟩
  have inserted := inserted.at_ kept
  refine ⟨?_, ?_, ?_, inserted.there, inserted.absent, ?_⟩
  · simp [Session.extend, Session.at_]
  · exact List.mem_append_right _ inserted.locked
  · rintro rfl
    exact List.mem_append_right _ inserted.guarded
  · have pending := inserted.pending
    have next := inserted.next
    simp only [Session.at_] at pending next
    simp only [Engine.view, Session.extend, Session.at_, pending, ← next]
    rfl

theorem safe_writeMessage (counted : Counted sqlite request sequenceNumber here) :
    Safe chatEngine (chatDiscipline sqlite) request
      (Ends (fun _ => True) fun _ => Complete sqlite request)
      (statements (writeMessage request sequenceNumber)) here := by
  apply safe_statement (fun _ _ => trivial)
  intro seen others _
  have counted := counted.at_ others
  have first : chatEngine.view (here.at_ seen) = seen := view_of_unwritten counted.unwritten
  rw [first]
  cases violated : seen.violated? (request.row sequenceNumber) with
  | some error => simp only [chatEngine, ChatStore.exec, violated]
  | none =>
      simp only [chatEngine, ChatStore.exec, violated, ChatStore.locks]
      have absent : seen.messages.find? request.drawn = none := by
        unfold ChatStore.violated? at violated
        split_ifs at violated with taken
        exact Option.not_isSome_iff_eq_none.mp taken
      have inserted : Inserted sqlite request sequenceNumber
          ((here.at_ seen).extend [.message (request.row sequenceNumber)]
            [.message (request.row sequenceNumber).id,
              .sequence (request.row sequenceNumber).sessionId
                (request.row sequenceNumber).sequenceNumber]) := by
        refine ⟨?_, ?_, ?_, counted.there, counted.next, absent⟩
        · simp [Session.extend, counted.unwritten]
        · have guarded := counted.guarded
          unfold Guarded at guarded ⊢
          simp only [Session.extend]
          split_ifs at guarded ⊢ <;> simp [guarded]
        · simp [Session.extend, MessageRequest.row]
      exact safe_touchSession inserted

theorem safe_appendBody :
    Safe chatEngine (chatDiscipline sqlite) request
      (Ends (fun _ => True) fun _ => Complete sqlite request)
      (statements (appendBody sqlite request))
      { committed := store, held := if sqlite then [.database] else [] } := by
  apply safe_statement (fun _ _ => trivial)
  intro seen others _
  have first : chatEngine.view (Session.at_ { committed := store
                                              held := if sqlite then [.database] else [] }
      seen) = seen := rfl
  rw [first]
  cases found : seen.session? request.workspaceId request.sessionId with
  | none =>
      simp only [chatEngine, ChatStore.exec, found]
      exact safe_raise trivial
  | some session =>
      simp only [chatEngine, ChatStore.exec, ChatStore.locks, found]
      apply safe_statement (fun _ _ => trivial)
      intro counting others' _
      apply safe_writeMessage
      have there : (counting.session? request.workspaceId request.sessionId).isSome = true := by
        apply others'.evolves.session?
        change (seen.session? request.workspaceId request.sessionId).isSome = true
        rw [found]
        rfl
      have guarded : Guarded sqlite request.sessionId
          ((if !sqlite && (some session).isSome then [ChatLock.session request.sessionId]
            else []) ++ if sqlite then [ChatLock.database] else []) := by
        cases sqlite <;> simp [Guarded]
      refine ⟨by simp [Session.extend, Session.at_], guarded, there, ?_⟩
      change counting.lastSequence request.workspaceId request.sessionId + 1 = _
      rw [lastSequence_eq others'.valid there]
      rfl

/-- The message of a request is stored. -/
def Stored (request : MessageRequest) (store : ChatStore) : Prop :=
  ∃ sequenceNumber, store.messages.find? request.drawn = some (request.row sequenceNumber)

theorem commits_complete (valid : ValidChat here.committed)
    (complete : Complete sqlite request here) :
    Commits chatEngine (chatDiscipline sqlite) here ∧ Stored request (chatEngine.view here) := by
  obtain ⟨held, locked, database, there, absent, view⟩ := complete
  obtain ⟨session, found⟩ := Option.isSome_iff_exists.mp there
  obtain ⟨found, own⟩ := Option.filter_eq_some_iff.mp found
  have own : session.workspaceId = request.workspaceId := by simpa using own
  obtain ⟨number, next⟩ : ∃ number, number =
    (here.committed.transcript request.sessionId).length + 1 := ⟨_, rfl⟩
  rw [← next] at view
  have kept : ValidChat (here.committed.adding (request.row number) request.stamp) ∧
      GrowsTo here.committed (here.committed.adding (request.row number) request.stamp) :=
    valid_adding valid absent found own next
  have messages (other : Uuid) :
      (here.committed.adding (request.row number) request.stamp).messages.find? other =
        if request.drawn = other then some (request.row number)
        else here.committed.messages.find? other := by
    simp only [ChatStore.adding, ChatStore.apply, RowTable.find?_insertIgnore]
    by_cases same : request.drawn = other
    · subst same
      rw [absent]
      rfl
    · rw [if_neg same]
      exact if_neg same
  rw [view]
  refine ⟨⟨?_, ?_, ?_⟩, number, ?_⟩
  · rw [view]
    exact kept.1
  · rw [view]
    exact kept.2
  · intro lock free
    rw [view]
    cases lock with
    | database =>
        cases sqlite with
        | false => rfl
        | true => exact absurd (database rfl) free
    | session other =>
        have absent : here.committed.messages.find? (request.row number).id = none := absent
        refine (transcript_adding absent).trans (if_neg ?_)
        rintro rfl
        exact free held
    | message other =>
        refine (messages other).trans (if_neg ?_)
        rintro rfl
        exact free locked
    | sequence other count => rfl
  · rw [messages, if_pos rfl]

/-- What a call that returns a message has stored. -/
def Appended (request : MessageRequest) (message : ChatMessageRow) (store : ChatStore) : Prop :=
  store.messages.find? request.drawn = some message ∧
    message = request.row message.sequenceNumber

theorem safe_readBack (stored : Stored request store) :
    Safe chatEngine (chatDiscipline sqlite) request
      (Ends (fun _ => True) fun message here =>
        ∃ row, message = some row ∧ Appended request row here.committed)
      (statements (selectMessage request.workspaceId request.drawn))
      { committed := store } := by
  obtain ⟨number, found⟩ := stored
  apply safe_perform (fun _ _ => trivial)
  intro seen others _
  have first : chatEngine.view (Session.at_ { committed := store } seen) = seen := rfl
  have found := others.evolves.find? found
  rw [first]
  simp only [chatEngine, ChatStore.exec, found, Option.filter_some]
  intro later more
  refine ⟨request.row number, ?_, more.evolves.find? found, rfl⟩
  simp [MessageRequest.row]

theorem safe_appendMessage :
    Safe chatEngine (chatDiscipline sqlite) request
      (Ends (fun _ => True) fun message here => Appended request message here.committed)
      (appendMessage sqlite request) { committed := store } := by
  have opens : Opens chatEngine (if sqlite then [.database] else [])
      (if sqlite then some .beginImmediate else none) := by
    cases sqlite with
    | false => rfl
    | true => exact fun store => ⟨rfl, (), rfl⟩
  have writes : Safe chatEngine (chatDiscipline sqlite) request
      (Ends (fun _ => True) fun _ here =>
        ∃ store, here = { committed := store } ∧ Stored request store)
      (transaction (if sqlite then some .beginImmediate else none)
        (appendBody sqlite request)) { committed := store } := by
    apply safe_transaction (fun _ _ => trivial) (fun _ _ => trivial) opens
      fun _ => safe_appendBody
    · exact fun _ _ complete valid => (commits_complete valid complete).1
    · intro _ after store complete valid _ grows
      obtain ⟨number, found⟩ := (commits_complete valid complete).2
      exact ⟨store, rfl, number, grows.find? found⟩
  unfold appendMessage
  split
  · exact safe_raise trivial
  · split
    · exact safe_raise trivial
    · apply writes.bind
      · intro _ after reached
        apply Safe.of_meanwhile
        intro seen others
        obtain ⟨last, same, stored⟩ := reached seen others
        rw [same]
        apply (safe_readBack stored).bind
        · intro message later read
          cases message with
          | none =>
              intro last more
              obtain ⟨row, missing, _⟩ := read last more
              cases missing
          | some message =>
              apply safe_pure
              intro last more
              obtain ⟨row, same, appended⟩ := read last more
              cases same
              exact appended
        · exact fun _ _ may => may
      · exact fun _ _ may => may

end Safety

/-! ## Runs -/

section Runs

variable {sqlite : Bool} {sessions : RowTable ChatSessionRow.id} {steps : List ChatStep}
  {final : ChatState}

theorem valid_sessions : (chatDiscipline sqlite).valid { sessions } :=
  ⟨fun _ => rfl, nofun⟩

theorem keepsTo_chat : KeepsTo chatEngine (chatDiscipline sqlite) (appendMessage sqlite) steps :=
  keepsTo_of_allowed (fun _ _ => ⟨trivial, trivial⟩) fun _ _ _ _ _ _ _ => trivial

theorem safe_bodies (request : MessageRequest) (_ : Starts steps request) (store : ChatStore)
    (_ : (chatDiscipline sqlite).valid store) :
    Safe chatEngine (chatDiscipline sqlite) request
      (Ends (fun _ => True) fun message here => Appended request message here.committed)
      (appendMessage sqlite request) { committed := store } :=
  safe_appendMessage

theorem valid_of_run (run : ChatRun sqlite sessions steps final) :
    ValidChat final.world.committed :=
  (sound_of_run valid_sessions safe_bodies run keepsTo_chat).1.valid

theorem grows_of_mem (run : ChatRun sqlite sessions steps final) {step : ChatStep}
    (member : step ∈ steps) :
    GrowsTo step.before.world.committed final.world.committed := by
  obtain ⟨i, found⟩ := List.mem_iff_getElem?.mp member
  exact (sound_before valid_sessions safe_bodies run keepsTo_chat found).2

/-- A call that has returned has stored its message. -/
theorem stored_of_ended (run : ChatRun sqlite sessions steps final) {step : ChatStep}
    (member : step ∈ steps) {request : MessageRequest} {message : ChatMessageRow}
    (ended : PoolSystem.ended? step = some (request, .ok message)) :
    message ∈ final.world.committed.transcript request.sessionId ∧
      message = request.row message.sequenceNumber := by
  obtain ⟨i, found⟩ := List.mem_iff_getElem?.mp member
  obtain ⟨_, stored, details⟩ := ended_as_promised valid_sessions safe_bodies run
    keepsTo_chat found ended
  have kept := (grows_of_mem run member).find? stored
  refine ⟨?_, details⟩
  simp only [ChatStore.transcript, List.mem_filter, decide_eq_true_eq]
  exact ⟨RowTable.mem_of_find? kept, by rw [details]; rfl⟩

/-- For any interleaving, transcripts are gap free. -/
theorem gap_free (run : ChatRun sqlite sessions steps final) : GapFree steps final := by
  refine ⟨?_, ?_, ?_⟩
  · exact (valid_of_run run).numbered
  · intro step member request message ended
    exact stored_of_ended run member ended
  · intro step member sessionId
    exact (grows_of_mem run member).messages.filter _

end Runs

/-! ## Two requests on one session -/

section Sample

def sampleSessions : RowTable ChatSessionRow.id where
  rows := [{ id := ⟨0, 0⟩, workspaceId := "legal" }]
  keys_nodup := by decide

def question : MessageRequest :=
  { drawn := ⟨1, 0⟩, workspaceId := "legal", sessionId := ⟨0, 0⟩, role := "user"
    content := " May we assign?".toList }

def answer : MessageRequest :=
  { question with drawn := ⟨2, 0⟩, role := "assistant", content := "With consent.".toList }

/-- A call of a thread with the outcomes of its statements. -/
def chatCalls (thread : Nat) (choices : List (BlockChoice Exn)) :
    List (PoolEvent MessageRequest (BlockChoice Exn) Empty) :=
  choices.map fun choice => .call thread choice

/-- The second call waits for the first; a third fails after its insert. -/
def chatEvents : List (PoolEvent MessageRequest (BlockChoice Exn) Empty) :=
  [.start 0 question, .start 1 answer, .start 2 { answer with drawn := ⟨3, 0⟩ }] ++
    chatCalls 0 (List.replicate 6 .executes) ++
    chatCalls 2 (List.replicate 3 .executes ++
      [.fails ⟨.databaseError, "connection lost"⟩, .executes]) ++
    chatCalls 1 (List.replicate 6 .executes) ++ [.stop 0, .stop 1, .stop 2]

def chatRun : Option (List ChatStep × ChatState) :=
  (chatEngine.system (appendMessage false)).extend []
    { world := { committed := { sessions := sampleSessions } } } chatEvents

theorem chatRun_isSome : chatRun.isSome := by
  decide

theorem gap_free_sample :
    GapFree (chatRun.get chatRun_isSome).1 (chatRun.get chatRun_isSome).2 ∧
      ((chatRun.get chatRun_isSome).2.world.committed.transcript ⟨0, 0⟩).map
          (fun message => (message.sequenceNumber, message.id)) =
        [(1, ⟨1, 0⟩), (2, ⟨2, 0⟩)] :=
  ⟨gap_free (PoolSystem.run_of_extend .nil (Option.some_get chatRun_isSome).symm),
    by decide⟩

end Sample

end ChatTranscripts

end ContractMate
