import ContractMate.ChatEvidence
import ContractMate.ChatTranscripts

/-!
# Answers of the chat agent

The two ways of running the agent, and the event stream that stores its answer.  What
the agent does is arbitrary: it calls the search tool and hands over events in any order.
-/

namespace ContractMate

namespace ChatAnswers

open ChatEvidence PythonText

/-! ## What the agent returns -/

/-- An event object; an attribute that is missing or no `str` is `none`. -/
structure AgnoEvent where
  className : Text
  event : Option Text := none
  content : Option Text := none
  output : Option Text := none
  data : Option Text := none
  error : Option Text := none
  message : Option Text := none
  reason : Option Text := none
deriving DecidableEq, Repr

inductive AgnoItem where
  | text (value : Text)
  | object (event : AgnoEvent)
deriving DecidableEq, Repr

namespace AgnoItem

/-- `_event_name`. -/
def eventName : AgnoItem → Text
  | text _ => "str".toList
  | object event => event.event.getD event.className

/-- The text that `_response_content` finds. -/
def responseContent : AgnoItem → Option Text
  | text value => some value
  | object event => event.content <|> event.output <|> event.data

/-- `_event_error_content`. -/
def errorContent (item : AgnoItem) (content : Text) : Text :=
  if !isBlank content then content
  else
    let attributes : List (Option Text) :=
      match item with
      | text _ => []
      | object event => [event.error, event.message, event.reason]
    ((attributes.filterMap id).find? fun value => !isBlank value).getD
      "The chat model stopped before completing its answer.".toList

end AgnoItem

/-- The characters that `str.casefold` turns into letters of ASCII; it turns no other
character into ASCII text. -/
def foldCharacter (character : Char) : Text :=
  match character.toNat with
  | 0xDF | 0x1E9E => ['s', 's']
  | 0x17F => ['s']
  | 0x212A => ['k']
  | 0xFB00 => ['f', 'f']
  | 0xFB01 => ['f', 'i']
  | 0xFB02 => ['f', 'l']
  | 0xFB03 => ['f', 'f', 'i']
  | 0xFB04 => ['f', 'f', 'l']
  | 0xFB05 | 0xFB06 => ['s', 't']
  | _ => [character.toLower]

/-- `str.casefold`, as far as a comparison with ASCII text can tell. -/
def casefold (text : Text) : Text :=
  text.flatMap foldCharacter

def AgnoItem.normalizedName (item : AgnoItem) : Text :=
  casefold item.eventName

/-! ## The agent service -/

structure ChatTurn where
  workspaceId : String
  userId : String
  sessionId : String
  message : Text
  contractId : Option String
deriving DecidableEq, Repr

/-- `_validate_run_input`. -/
def validateRunInput (turn : ChatTurn) : Except Exn Text :=
  if isBlank turn.workspaceId.toList || isBlank turn.userId.toList ||
      isBlank turn.sessionId.toList then
    .error (Exn.valueError "workspace_id, user_id, and session_id are required.")
  else if strip turn.message = [] then
    .error (Exn.valueError "A non-empty chat message is required.")
  else .ok (strip turn.message)

structure ChatAgentResponse (Score : Type) where
  content : Text
  citations : List Text
  sessionId : String
  sources : List (ChatEvidenceSource Score)
deriving DecidableEq, Repr

inductive StreamEventType where
  | error
  | tool
  | completed
  | delta
deriving DecidableEq, Repr

structure ChatStreamEvent (Score : Type) where
  type : StreamEventType
  content : Text := []
  event : Text
  sources : List (ChatEvidenceSource Score) := []
deriving DecidableEq, Repr

/-- One thing that the agent does while its events are drawn. -/
inductive RunStep (Score : Type) where
  | search (call : SearchCall Score)
  | item (item : AgnoItem)
  | raises (raised : Exn)

/-- What `agent.run` comes to with `stream=True`. -/
inductive StreamRun (Score : Type) where
  | raises (raised : Exn)
  | noIterator
  | iterates (steps : List (RunStep Score))

section Service

variable {Score : Type} (turn : ChatTurn)

/-- `answer`: the agent makes its searches and then returns or raises. -/
def answer (calls : List (SearchCall Score)) (outcome : Except Exn AgnoItem) :
    Except Exn (ChatAgentResponse Score) := do
  let _ ← validateRunInput turn
  let evidence := registryAfter turn.workspaceId turn.contractId calls
  let response ← outcome
  match response.responseContent with
  | none => .error (Exn.runtimeError "Agno returned a response without text content.")
  | some content => do
      let sources ← evidence.resolveCitations content
      .ok
        { content, citations := sources.map ChatEvidenceSource.sourceId
          sessionId := turn.sessionId, sources }

/-- What the loop of `stream` makes of an item. -/
inductive Handled (Score : Type) where
  | raised (raised : Exn)
  | emitted (event : ChatStreamEvent Score)
  | ignored

/-- The names of the events that end a run or a tool call badly. -/
def failureNames : List Text :=
  ["runerror".toList, "runcancelled".toList, "toolcallerror".toList]

def toolNames : List Text :=
  ["toolcallstarted".toList, "toolcallcompleted".toList]

/-- The item closes the stream. -/
def AgnoItem.completes (item : AgnoItem) : Prop :=
  item.normalizedName = "runcompleted".toList

instance (item : AgnoItem) : Decidable item.completes :=
  inferInstanceAs (Decidable (_ = _))

/-- `content or "".join(content_parts)`. -/
def finalContent (item : AgnoItem) (contentParts : List Text) : Text :=
  let content := item.responseContent.getD []
  if content = [] then contentParts.flatten else content

/-- The completed event, or the exception raised in its place. -/
def handleCompleted (item : AgnoItem) (contentParts : List Text)
    (evidence : RunEvidenceRegistry Score) : Handled Score :=
  let content := finalContent item contentParts
  if isBlank content then
    .raised (Exn.runtimeError "Agno completed the chat stream without text content.")
  else
    match evidence.resolveCitations content with
    | .error raised => .raised raised
    | .ok sources => .emitted ⟨.completed, content, item.eventName, sources⟩

/-- One pass of the loop. -/
def handle (item : AgnoItem) (contentParts : List Text)
    (evidence : RunEvidenceRegistry Score) : Handled Score :=
  let content := item.responseContent.getD []
  if item.normalizedName ∈ failureNames then
    .emitted ⟨.error, item.errorContent content, item.eventName, []⟩
  else if item.normalizedName ∈ toolNames then
    .emitted ⟨.tool, content, item.eventName, []⟩
  else if item.completes then handleCompleted item contentParts evidence
  else if item.normalizedName = "runcontent".toList ∧ content ≠ [] then
    .emitted ⟨.delta, content, item.eventName, []⟩
  else .ignored

/-- What a pass adds to `content_parts`. -/
def AgnoItem.part (item : AgnoItem) : List Text :=
  let content := item.responseContent.getD []
  if item.normalizedName = "runcontent".toList ∧ content ≠ [] then [content] else []

/-- The events that `stream` yields and the exception that ends it, if one does. -/
def streamFrom : List (RunStep Score) → List Text → RunEvidenceRegistry Score →
    List (ChatStreamEvent Score) × Option Exn
  | [], _, _ => ([], none)
  | .raises raised :: _, _, _ => ([], some raised)
  | .search call :: rest, contentParts, evidence =>
      streamFrom rest contentParts
        (call.perform turn.workspaceId turn.contractId evidence).2
  | .item item :: rest, contentParts, evidence =>
      match handle item contentParts evidence with
      | .raised raised => ([], some raised)
      | .emitted event =>
          let later := streamFrom rest (contentParts ++ item.part) evidence
          (event :: later.1, later.2)
      | .ignored => streamFrom rest (contentParts ++ item.part) evidence

/-- `stream`. -/
def stream (run : StreamRun Score) : List (ChatStreamEvent Score) × Option Exn :=
  match validateRunInput turn with
  | .error raised => ([], some raised)
  | .ok _ =>
      match run with
      | .raises raised => ([], some raised)
      | .noIterator => ([], some (Exn.runtimeError "Agno did not return a stream iterator."))
      | .iterates steps => streamFrom turn steps [] {}

end Service

/-! ## The event stream of the route -/

structure SourceCard (Score : Type) where
  id : Text
  chunkId : String
  contractId : String
  contractVersionId : String
  contractTitle : String
  pageNumber : Option Int
  sourceType : String
  excerpt : String
  relevance : Score
deriving DecidableEq, Repr

/-- The columns of a contract's row that its title is taken from. -/
structure ContractTitleRow where
  title : Option String
  originalFilename : Option String
deriving DecidableEq, Repr

/-- `a or b` of two nullable texts. -/
def orElseText (first second : Option String) : Option String :=
  (first.filter fun text => text ≠ "") <|> (second.filter fun text => text ≠ "")

section Cards

variable {Score : Type} (contractRow : String → Except Exn (Option ContractTitleRow))

/-- The title that a source's card shows for its contract. -/
def cardTitle (source : ChatEvidenceSource Score) : Except Exn String := do
  match ← contractRow source.contractId with
  | some row => .ok ((orElseText row.title row.originalFilename).getD "Untitled contract")
  | none =>
      .ok ((source.metadata.shown? "contract_title" <|>
        source.metadata.shown? "title").getD "Contract")

def sourceCard (source : ChatEvidenceSource Score) (title : String) : SourceCard Score where
  id := source.sourceId
  chunkId := source.chunkId
  contractId := source.contractId
  contractVersionId := source.contractVersionId
  contractTitle := title
  pageNumber := source.pageNumber
  sourceType := source.sourceType
  excerpt := String.ofList (source.excerpt.toList.take 600)
  relevance := source.relevance

/-- A contract's title is looked up once. -/
def titleOf (titles : List (String × String)) (source : ChatEvidenceSource Score) :
    Except Exn String :=
  match titles.lookup source.contractId with
  | some title => .ok title
  | none => cardTitle contractRow source

/-- The loop of `chat_source_cards`. -/
def cardsFrom : List (String × String) → List (ChatEvidenceSource Score) →
    Except Exn (List (SourceCard Score))
  | _, [] => .ok []
  | titles, source :: rest => do
      let title ← titleOf contractRow titles source
      let later ← cardsFrom ((source.contractId, title) :: titles) rest
      .ok (sourceCard source title :: later)

def chatSourceCards (sources : List (ChatEvidenceSource Score)) :
    Except Exn (List (SourceCard Score)) :=
  cardsFrom contractRow [] sources

end Cards

/-- The assistant's message that `event_stream` appends. -/
structure AssistantMessage (Score : Type) where
  content : Text
  citations : List (SourceCard Score)
  modelName : String
  contractId : Option String
  citationLabels : List Text
  retrievalCount : Nat
deriving DecidableEq, Repr

/-- The arguments with which `append_message` gets it. -/
def AssistantMessage.request {Score : Type} (message : AssistantMessage Score)
    (turn : ChatTurn) (drawn session : Uuid) (citations metadata : String) (stamp : Int) :
    ChatTranscripts.MessageRequest where
  drawn := drawn
  workspaceId := turn.workspaceId
  sessionId := session
  role := "assistant"
  content := message.content
  citations := citations
  modelProvider := some "openai"
  modelName := some message.modelName
  metadata := metadata
  stamp := stamp

inductive SseEvent (Score Message : Type) where
  | status (status : String)
  | delta (delta : Text)
  | sources (cards : List (SourceCard Score))
  | completed (message : Message)
  | error (code message : String)
deriving DecidableEq, Repr

section Route

variable {Score Message : Type} (turn : ChatTurn) (chatModelId : String)
  (contractRow : String → Except Exn (Option ContractTitleRow))
  (appendMessage : AssistantMessage Score → Except Exn Message)

/-- What every exception of the stream is answered with. -/
def generationFailed : SseEvent Score Message :=
  .error "chat_generation_failed" "Samvid could not complete that contract answer."

/-- The message of a completed event. -/
def assistantMessage (event : ChatStreamEvent Score) (cards : List (SourceCard Score)) :
    AssistantMessage Score where
  content := event.content
  citations := cards
  modelName := chatModelId
  contractId := turn.contractId
  citationLabels := event.sources.map ChatEvidenceSource.sourceId
  retrievalCount := cards.length

/-- What the route sends and stores for a completed event. -/
def complete (event : ChatStreamEvent Score) :
    List (SseEvent Score Message) × List (AssistantMessage Score) :=
  match chatSourceCards contractRow event.sources with
  | .error _ => ([generationFailed], [])
  | .ok cards =>
      let message := assistantMessage turn chatModelId event cards
      match appendMessage message with
      | .error _ => ([generationFailed], [])
      | .ok appended =>
          ((if cards = [] then [] else [.sources cards]) ++ [.completed appended], [message])

/-- The loop of `event_stream`: what it sends, and the messages it stores.  A stream that
raises and one that merely ends are answered alike. -/
def eventStreamFrom : List (ChatStreamEvent Score) →
    List (SseEvent Score Message) × List (AssistantMessage Score)
  | [] => ([generationFailed], [])
  | event :: rest =>
      match event.type with
      | .tool =>
          let later := eventStreamFrom rest
          (.status "Reading relevant contract evidence..." :: later.1, later.2)
      | .delta =>
          let later := eventStreamFrom rest
          (.delta event.content :: later.1, later.2)
      | .completed => complete turn chatModelId contractRow appendMessage event
      | .error => ([generationFailed], [])

/-- `event_stream`. -/
def eventStream (run : StreamRun Score) :
    List (SseEvent Score Message) × List (AssistantMessage Score) :=
  let sent := eventStreamFrom turn chatModelId contractRow appendMessage
    (stream turn run).1
  (.status "Connecting to contract search..." :: sent.1, sent.2)

end Route

/-! ## Answers -/

section Answers

variable {Score : Type} {turn : ChatTurn}

theorem answer_ok {calls : List (SearchCall Score)} {outcome : Except Exn AgnoItem}
    {response : ChatAgentResponse Score} (returned : answer turn calls outcome = .ok response) :
    (registryAfter turn.workspaceId turn.contractId calls).resolveCitations
        response.content = .ok response.sources ∧
      response.citations = response.sources.map ChatEvidenceSource.sourceId := by
  unfold answer at returned
  cases valid : validateRunInput turn with
  | error raised => rw [valid] at returned; cases returned
  | ok message =>
      cases outcome with
      | error raised => rw [valid] at returned; cases returned
      | ok item =>
          cases text : item.responseContent with
          | none => simp [valid, text, bind, Except.bind] at returned
          | some content =>
              cases resolved : (registryAfter turn.workspaceId turn.contractId
                  calls).resolveCitations content with
              | error raised => simp [valid, text, bind, Except.bind, resolved] at returned
              | ok sources =>
                  simp only [valid, text, bind, Except.bind, resolved,
                    Except.ok.injEq] at returned
                  subst returned
                  exact ⟨resolved, rfl⟩

theorem answer_error {calls : List (SearchCall Score)} {item : AgnoItem} {content : Text}
    (text : item.responseContent = some content)
    (unsupported : ¬ Supported (registryAfter turn.workspaceId turn.contractId calls) content) :
    ∃ raised, answer turn calls (.ok item) = .error raised := by
  cases answered : answer turn calls (.ok item) with
  | error raised => exact ⟨raised, rfl⟩
  | ok response =>
      obtain ⟨message, failed⟩ := resolveCitations_error unsupported
      unfold answer at answered
      cases valid : validateRunInput turn with
      | error raised => rw [valid] at answered; cases answered
      | ok message =>
          simp [valid, text, bind, Except.bind, failed] at answered

end Answers

/-! ## Streams -/

section Streams

variable {Score : Type} {turn : ChatTurn}

/-- The searches among the steps. -/
def searches (steps : List (RunStep Score)) : List (SearchCall Score) :=
  steps.filterMap fun step =>
    match step with
    | .search call => some call
    | _ => none

/-- The parts of the text that the steps stream. -/
def contentParts (steps : List (RunStep Score)) : List Text :=
  steps.flatMap fun step =>
    match step with
    | .item item => item.part
    | _ => []

/-- The registry after the searches among the steps. -/
def evidenceAfter (turn : ChatTurn) (steps : List (RunStep Score))
    (evidence : RunEvidenceRegistry Score) : RunEvidenceRegistry Score :=
  (searches steps).foldl
    (fun evidence call => (call.perform turn.workspaceId turn.contractId evidence).2) evidence

/-- A stream is drawn in order, and an exception ends it. -/
theorem streamFrom_append (earlier later : List (RunStep Score)) :
    ∀ (parts : List Text) (evidence : RunEvidenceRegistry Score),
      ((streamFrom turn earlier parts evidence).2.isSome = true ∧
          streamFrom turn (earlier ++ later) parts evidence =
            streamFrom turn earlier parts evidence) ∨
        streamFrom turn (earlier ++ later) parts evidence =
          ((streamFrom turn earlier parts evidence).1 ++
              (streamFrom turn later (parts ++ contentParts earlier)
                (evidenceAfter turn earlier evidence)).1,
            (streamFrom turn later (parts ++ contentParts earlier)
              (evidenceAfter turn earlier evidence)).2) := by
  induction earlier with
  | nil =>
      intro parts evidence
      right
      simp [streamFrom, contentParts, evidenceAfter, searches]
  | cons step earlier induction =>
      intro parts evidence
      cases step with
      | raises raised => exact .inl ⟨rfl, rfl⟩
      | search call => exact induction parts _
      | item item =>
          have next := induction (parts ++ item.part) evidence
          have joined : contentParts (.item item :: earlier) =
              item.part ++ contentParts earlier := rfl
          rw [joined, ← List.append_assoc]
          rw [List.cons_append, streamFrom, streamFrom]
          cases handle item parts evidence with
          | raised raised => exact .inl ⟨rfl, rfl⟩
          | ignored => exact next
          | emitted event =>
              rcases next with ⟨raises, same⟩ | same
              · left
                dsimp only
                rw [same]
                exact ⟨raises, rfl⟩
              · right
                dsimp only
                rw [same]
                rfl

/-- A completed event comes from a closing item whose citations were resolved. -/
theorem handle_completed {item : AgnoItem} {parts : List Text}
    {evidence : RunEvidenceRegistry Score} {event : ChatStreamEvent Score}
    (handled : handle item parts evidence = .emitted event)
    (completed : event.type = .completed) :
    item.completes ∧ event.content = finalContent item parts ∧
      evidence.resolveCitations event.content = .ok event.sources := by
  unfold handle at handled
  dsimp only at handled
  split at handled
  · cases handled
    cases completed
  · split at handled
    · cases handled
      cases completed
    · split at handled
      · rename_i closes
        unfold handleCompleted at handled
        dsimp only at handled
        split at handled
        · cases handled
        · split at handled
          · cases handled
          · rename_i resolved
            cases handled
            exact ⟨closes, rfl, resolved⟩
      · split at handled
        · cases handled
          cases completed
        · cases handled

/-- A closing item with an unsupported citation raises. -/
theorem handle_unsupported {item : AgnoItem} {parts : List Text}
    {evidence : RunEvidenceRegistry Score} (closes : item.completes)
    (unsupported : ¬ Supported evidence (finalContent item parts)) :
    ∃ raised, handle item parts evidence = .raised raised := by
  have named : item.normalizedName = "runcompleted".toList := closes
  have noFailure : item.normalizedName ∉ failureNames := by
    rw [named]
    decide
  have noTool : item.normalizedName ∉ toolNames := by
    rw [named]
    decide
  unfold handle handleCompleted
  dsimp only
  rw [if_neg noFailure, if_neg noTool, if_pos closes]
  split
  · exact ⟨_, rfl⟩
  · obtain ⟨message, failed⟩ := resolveCitations_error unsupported
    rw [failed]
    exact ⟨_, rfl⟩

theorem completed_of_mem {event : ChatStreamEvent Score} (completed : event.type = .completed)
    (steps : List (RunStep Score)) :
    ∀ (parts : List Text) (evidence : RunEvidenceRegistry Score),
      event ∈ (streamFrom turn steps parts evidence).1 →
        ∃ earlier item later, steps = earlier ++ .item item :: later ∧ item.completes ∧
          event.content = finalContent item (parts ++ contentParts earlier) ∧
          (evidenceAfter turn earlier evidence).resolveCitations event.content =
            .ok event.sources := by
  induction steps with
  | nil =>
      intro parts evidence member
      cases member
  | cons step steps induction =>
      intro parts evidence member
      cases step with
      | raises raised => cases member
      | search call =>
          obtain ⟨earlier, item, later, rfl, found⟩ := induction parts _ member
          exact ⟨.search call :: earlier, item, later, rfl, found⟩
      | item first =>
          have lift (inRest : event ∈
              (streamFrom turn steps (parts ++ first.part) evidence).1) :
              ∃ earlier item later, RunStep.item first :: steps =
                  earlier ++ .item item :: later ∧ item.completes ∧
                event.content = finalContent item (parts ++ contentParts earlier) ∧
                (evidenceAfter turn earlier evidence).resolveCitations event.content =
                  .ok event.sources := by
            obtain ⟨earlier, item, later, rfl, closes, content, resolved⟩ :=
              induction _ evidence inRest
            rw [List.append_assoc] at content
            exact ⟨.item first :: earlier, item, later, rfl, closes, content, resolved⟩
          rw [streamFrom] at member
          cases handled : handle first parts evidence with
          | raised raised => rw [handled] at member; cases member
          | ignored => rw [handled] at member; exact lift member
          | emitted emitted =>
              rw [handled] at member
              rcases List.mem_cons.mp member with rfl | inRest
              · obtain ⟨closes, content, resolved⟩ := handle_completed handled completed
                refine ⟨[], first, steps, rfl, closes, ?_, resolved⟩
                simpa [contentParts] using content
              · exact lift inRest

/-- From an item with an unsupported citation on, the stream yields nothing and raises. -/
theorem stream_unsupported {earlier : List (RunStep Score)} {item : AgnoItem}
    (later : List (RunStep Score)) (closes : item.completes)
    (unsupported : ¬ Supported (evidenceAfter turn earlier {})
      (finalContent item (contentParts earlier))) :
    (stream turn (.iterates (earlier ++ .item item :: later))).2.isSome = true ∧
      (stream turn (.iterates (earlier ++ .item item :: later))).1 =
        (stream turn (.iterates earlier)).1 := by
  unfold stream
  cases validateRunInput turn with
  | error raised => exact ⟨rfl, rfl⟩
  | ok message =>
      dsimp only
      rcases streamFrom_append earlier (.item item :: later) [] {} with
        ⟨raises, same⟩ | same
      · rw [same]
        exact ⟨raises, rfl⟩
      · obtain ⟨raised, handled⟩ := handle_unsupported closes unsupported
        have ends : streamFrom turn (.item item :: later) ([] ++ contentParts earlier)
            (evidenceAfter turn earlier {}) = ([], some raised) := by
          rw [streamFrom, List.nil_append, handled]
        rw [same, ends]
        exact ⟨rfl, List.append_nil _⟩

end Streams

/-! ## The route -/

section Storage

variable {Score Message : Type} {turn : ChatTurn} {chatModelId : String}
  {contractRow : String → Except Exn (Option ContractTitleRow)}
  {appendMessage : AssistantMessage Score → Except Exn Message}

/-- A card is made for every source. -/
theorem cardsFrom_ids (sources : List (ChatEvidenceSource Score)) :
    ∀ (titles : List (String × String)) {cards : List (SourceCard Score)},
      cardsFrom contractRow titles sources = .ok cards →
        cards.map SourceCard.id = sources.map ChatEvidenceSource.sourceId := by
  induction sources with
  | nil =>
      intro titles cards made
      cases made
      rfl
  | cons source rest induction =>
      intro titles cards made
      rw [cardsFrom] at made
      cases title : titleOf contractRow titles source with
      | error raised =>
          rw [title] at made
          cases made
      | ok title' =>
          rw [title] at made
          cases later : cardsFrom contractRow
              ((source.contractId, title') :: titles) rest with
          | error raised => simp [bind, Except.bind, later] at made
          | ok others =>
              simp only [bind, Except.bind, later, Except.ok.injEq] at made
              subst made
              rw [List.map_cons, List.map_cons, induction _ later]
              rfl

theorem complete_stored {event : ChatStreamEvent Score} {message : AssistantMessage Score}
    (stored : message ∈
      (complete turn chatModelId contractRow appendMessage event).2) :
    ∃ cards, chatSourceCards contractRow event.sources = .ok cards ∧
      message = assistantMessage turn chatModelId event cards := by
  unfold complete at stored
  split at stored
  · cases stored
  · rename_i cards found
    dsimp only at stored
    split at stored
    · cases stored
    · rw [List.mem_singleton] at stored
      exact ⟨cards, found, stored⟩

/-- Only a completed event is stored. -/
theorem stored_of_mem (events : List (ChatStreamEvent Score)) {message : AssistantMessage Score}
    (stored : message ∈
      (eventStreamFrom turn chatModelId contractRow appendMessage events).2) :
    ∃ event ∈ events, event.type = .completed ∧
      ∃ cards, chatSourceCards contractRow event.sources = .ok cards ∧
        message = assistantMessage turn chatModelId event cards := by
  induction events with
  | nil => cases stored
  | cons event rest induction =>
      rw [eventStreamFrom] at stored
      cases type : event.type with
      | tool | delta =>
          rw [type] at stored
          obtain ⟨found, member, rest⟩ := induction stored
          exact ⟨found, List.mem_cons_of_mem _ member, rest⟩
      | completed =>
          rw [type] at stored
          exact ⟨event, by simp, type, complete_stored stored⟩
      | error =>
          rw [type] at stored
          cases stored

theorem stored_length (events : List (ChatStreamEvent Score)) :
    (eventStreamFrom turn chatModelId contractRow appendMessage events).2.length ≤ 1 := by
  induction events with
  | nil => simp [eventStreamFrom]
  | cons event rest induction =>
      rw [eventStreamFrom]
      cases event.type with
      | tool => exact induction
      | delta => exact induction
      | completed =>
          change (complete turn chatModelId contractRow appendMessage event).2.length ≤ 1
          unfold complete
          split
          · simp
          · dsimp only
            split <;> simp
      | error => simp

/-- The first completed event is stored. -/
theorem stored_completed {before after : List (ChatStreamEvent Score)}
    {event : ChatStreamEvent Score} {cards : List (SourceCard Score)} {appended : Message}
    (quiet : ∀ earlier ∈ before, earlier.type = .tool ∨ earlier.type = .delta)
    (completed : event.type = .completed) (found : chatSourceCards contractRow event.sources = .ok cards)
    (succeeds : appendMessage (assistantMessage turn chatModelId event cards) = .ok appended) :
    (eventStreamFrom turn chatModelId contractRow appendMessage
      (before ++ event :: after)).2 = [assistantMessage turn chatModelId event cards] := by
  induction before with
  | nil => simp [eventStreamFrom, completed, complete, found, succeeds]
  | cons earlier before induction =>
      have later := induction fun other member => quiet other (by simp [member])
      rw [List.cons_append, eventStreamFrom]
      rcases quiet earlier (by simp) with type | type
      · rw [type]
        exact later
      · rw [type]
        exact later

end Storage

/-! ## Citation integrity -/

section Integrity

variable {Score Message : Type} (turn : ChatTurn) (chatModelId : String)
  (contractRow : String → Except Exn (Option ContractTitleRow))
  (appendMessage : AssistantMessage Score → Except Exn Message)

/-- What holds of the evidence of every run, of both ways to answer, and of what is
stored. -/
structure CitationIntegrity : Prop where
  /-- The evidence is `S1`, `S2`, … in the order in which its chunks were first found. -/
  numbered : ∀ calls : List (SearchCall Score),
    let evidence := (registryAfter turn.workspaceId turn.contractId calls).sources
    evidence.map ChatEvidenceSource.sourceId =
        ((List.range evidence.length).map fun position => sourceId (position + 1)) ∧
      evidence.map ChatEvidenceSource.chunkId =
        ((calls.flatMap (SearchCall.results turn.workspaceId turn.contractId)).map
          fun result => result.chunk.id).eraseDups ∧
      (evidence.map ChatEvidenceSource.sourceId).Nodup ∧
      (evidence.map ChatEvidenceSource.chunkId).Nodup
  /-- A search shows the source of each chunk that it finds. -/
  shown : ∀ (calls : List (SearchCall Score)) (call : SearchCall Score)
    (items : List (EvidenceItem Score)),
    (call.perform turn.workspaceId turn.contractId
      (registryAfter turn.workspaceId turn.contractId calls)).1 = .ok items →
    List.Forall₂ (fun item result =>
        ∃ source ∈ (registryAfter turn.workspaceId turn.contractId
            (calls ++ [call])).sources,
          source.chunkId = result.chunk.id ∧ item = source.item)
      items (call.results turn.workspaceId turn.contractId)
  /-- `answer` returns only what the run supports, with what it cites. -/
  answered : ∀ (calls : List (SearchCall Score)) (outcome : Except Exn AgnoItem)
    (response : ChatAgentResponse Score), answer turn calls outcome = .ok response →
    let evidence := registryAfter turn.workspaceId turn.contractId calls
    Supported evidence response.content ∧
      Reports evidence response.content response.sources ∧
      response.citations = response.sources.map ChatEvidenceSource.sourceId
  /-- It raises for any other text. -/
  answer_raises : ∀ (calls : List (SearchCall Score)) (item : AgnoItem) (content : Text),
    item.responseContent = some content →
    ¬ Supported (registryAfter turn.workspaceId turn.contractId calls) content →
    ∃ raised, answer turn calls (.ok item) = .error raised
  /-- `stream` completes only with what the run supports, with what it cites. -/
  streamed : ∀ (steps : List (RunStep Score)) (event : ChatStreamEvent Score),
    event ∈ (stream turn (.iterates steps)).1 → event.type = .completed →
    ∃ earlier item later, steps = earlier ++ .item item :: later ∧ item.completes ∧
      event.content = finalContent item (contentParts earlier) ∧
      let evidence := registryAfter turn.workspaceId turn.contractId (searches earlier)
      Supported evidence event.content ∧ Reports evidence event.content event.sources
  /-- It yields nothing and raises in place of any other text. -/
  stream_raises : ∀ (earlier later : List (RunStep Score)) (item : AgnoItem),
    item.completes →
    ¬ Supported (registryAfter turn.workspaceId turn.contractId (searches earlier))
      (finalContent item (contentParts earlier)) →
    (stream turn (.iterates (earlier ++ .item item :: later))).2.isSome = true ∧
      (stream turn (.iterates (earlier ++ .item item :: later))).1 =
        (stream turn (.iterates earlier)).1
  /-- The route stores one message at most, that of a completed event. -/
  stored : ∀ run : StreamRun Score,
    (eventStream turn chatModelId contractRow appendMessage run).2.length ≤ 1 ∧
      ∀ message ∈ (eventStream turn chatModelId contractRow appendMessage run).2,
        ∃ event ∈ (stream turn run).1, event.type = .completed ∧
          (∃ cards, chatSourceCards contractRow event.sources = .ok cards ∧
            message = assistantMessage turn chatModelId event cards) ∧
          message.citations.map SourceCard.id =
            event.sources.map ChatEvidenceSource.sourceId
  /-- It does store the first completed event that its stream yields. -/
  stores : ∀ (run : StreamRun Score) (before after : List (ChatStreamEvent Score))
    (event : ChatStreamEvent Score) (cards : List (SourceCard Score)) (appended : Message),
    (stream turn run).1 = before ++ event :: after →
    (∀ earlier ∈ before, earlier.type = .tool ∨ earlier.type = .delta) →
    event.type = .completed → chatSourceCards contractRow event.sources = .ok cards →
    appendMessage (assistantMessage turn chatModelId event cards) = .ok appended →
    (eventStream turn chatModelId contractRow appendMessage run).2 =
      [assistantMessage turn chatModelId event cards]
  /-- If the first text that would complete the run is unsupported, nothing is stored. -/
  unstored : ∀ (earlier later : List (RunStep Score)) (item : AgnoItem),
    (∀ other, .item other ∈ earlier → ¬ other.completes) → item.completes →
    ¬ Supported (registryAfter turn.workspaceId turn.contractId (searches earlier))
      (finalContent item (contentParts earlier)) →
    (eventStream turn chatModelId contractRow appendMessage
      (.iterates (earlier ++ .item item :: later))).2 = []
  /-- The row that is stored cites what its message cites. -/
  stored_text : ∀ (message : AssistantMessage Score) (drawn session : Uuid)
    (cited metadata : String) (stamp : Int) (sequenceNumber : Nat),
    citations ((message.request turn drawn session cited metadata stamp).row
      sequenceNumber).content = citations message.content

theorem nodup_eraseDups (values : List String) : values.eraseDups.Nodup := by
  induction values using List.reverseRecOn with
  | nil => exact List.nodup_nil
  | append_singleton values value induction =>
      rw [RunEvidenceRegistry.eraseDups_append_singleton]
      split
      · exact induction
      · rename_i unknown
        rw [List.nodup_append]
        refine ⟨induction, by simp, ?_⟩
        intro first member second same equal
        rw [List.mem_singleton] at same
        rw [List.mem_eraseDups, equal, same] at member
        exact unknown member

/-- Answers cite the evidence of their own run, and nothing else is stored. -/
theorem citation_integrity :
    CitationIntegrity turn chatModelId contractRow appendMessage where
  numbered calls := by
    have holds := holds_registryAfter turn.workspaceId turn.contractId calls
    refine ⟨holds.numbered.ids, holds.chunks, ?_, ?_⟩
    · rw [holds.numbered.ids]
      apply List.Nodup.map _ List.nodup_range
      intro first second same
      have equal := sourceId_injective same
      omega
    · rw [holds.chunks]
      exact nodup_eraseDups _
  shown calls call items performed := by
    have holds := holds_registryAfter turn.workspaceId turn.contractId calls
    have after : registryAfter turn.workspaceId turn.contractId (calls ++ [call]) =
        (registerAll (call.results turn.workspaceId turn.contractId)
          (registryAfter turn.workspaceId turn.contractId calls)).2 := by
      rw [registryAfter, List.foldl_append, List.foldl_cons, List.foldl_nil, perform_snd]
      rfl
    have same : items = (registerAll (call.results turn.workspaceId turn.contractId)
        (registryAfter turn.workspaceId turn.contractId calls)).1 := by
      rw [SearchCall.perform, searchContractContext] at performed
      rw [SearchCall.results]
      split at performed
      · cases performed
      · cases performed
        rfl
    rw [after, same]
    exact registerAll_items _ holds
  answered calls outcome response returned := by
    obtain ⟨resolved, labels⟩ := answer_ok returned
    have numbered :=
      (holds_registryAfter turn.workspaceId turn.contractId calls).numbered
    obtain ⟨supported, reports⟩ := supported_of_resolved numbered resolved
    exact ⟨supported, reports, labels⟩
  answer_raises calls item content text unsupported := answer_error text unsupported
  streamed steps event member completed := by
    unfold stream at member
    split at member
    · cases member
    · obtain ⟨earlier, item, later, rfl, closes, content, resolved⟩ :=
        completed_of_mem completed steps [] {} member
      have numbered :=
        (holds_registryAfter turn.workspaceId turn.contractId (searches earlier)).numbered
      exact ⟨earlier, item, later, rfl, closes, content,
        supported_of_resolved numbered resolved⟩
  stream_raises earlier later item closes unsupported :=
    stream_unsupported later closes unsupported
  stored run := by
    refine ⟨stored_length _, ?_⟩
    intro message stored
    obtain ⟨event, member, completed, cards, found, rfl⟩ := stored_of_mem _ stored
    exact ⟨event, member, completed, ⟨cards, found, rfl⟩, cardsFrom_ids _ _ found⟩
  stores run before after event cards appended yielded quiet completed found succeeds := by
    unfold eventStream
    dsimp only
    rw [yielded]
    exact stored_completed quiet completed found succeeds
  unstored earlier later item open_ closes unsupported := by
    obtain ⟨_, same⟩ := stream_unsupported later closes unsupported
    rw [List.eq_nil_iff_forall_not_mem]
    intro message stored
    obtain ⟨event, member, completed, _⟩ := stored_of_mem _ stored
    rw [same] at member
    unfold stream at member
    split at member
    · cases member
    · obtain ⟨before, other, after, rfl, closes', _⟩ :=
        completed_of_mem completed earlier [] {} member
      exact open_ other (by simp) closes'
  stored_text message drawn session cited metadata stamp sequenceNumber :=
    citations_strip message.content

end Integrity

end ChatAnswers

end ContractMate
