import ContractMate.ChatStreamBlocks

/-!
# The round trip of chat streams

The client cuts the text into the blocks of the server however the bytes arrive, and reads
from each block what was sent.  An event with a number that is not finite is no JSON: its
handler is not called.
-/

namespace ContractMate

namespace ChatStream

open JsonText (Value)
open TextSplitting StreamDecoder

variable {D : Type} (doubles : Doubles D)

/-- The handler of an event, with the values of its payload. -/
def ChatEvent.handlerCall : ChatEvent D → HandlerCall D
  | status text => .onStatus text
  | delta text => .onDelta text
  | sources items =>
      .onSources (items.map fun item => (Value.object item.fields).map doubles.toDouble)
  | completed message => .onMessage ((chatMessageResponse message).map doubles.toDouble)

/-- Every number of an event is finite. -/
def ChatEvent.isFinite (event : ChatEvent D) : Bool :=
  event.payload.allNumbers doubles.finiteNumber

/-- The error that the client throws. -/
def chatGenerationFailed : ClientError :=
  .apiError 502 (some "chat_generation_failed")
    "Samvid could not complete that contract answer."

/-! ## Dispatch -/

theorem read_eventLine {name : String} (named : EventName name) :
    BlockLines.read {} (eventField ++ name.toList) = ⟨name.toList, []⟩ := by
  have event : "event:".toList = ['e', 'v', 'e', 'n', 't', ':'] := by decide
  have data : "data:".toList = ['d', 'a', 't', 'a', ':'] := by decide
  simp [BlockLines.read, eventField_eq, event, data, named.trimmed]

theorem read_dataLine (name : List Char) {text : List Char}
    (visible : text.head?.map isSpace = some false) :
    BlockLines.read ⟨name, []⟩ (dataField ++ text) = ⟨name, [text]⟩ := by
  have event : "event:".toList = ['e', 'v', 'e', 'n', 't', ':'] := by decide
  have data : "data:".toList = ['d', 'a', 't', 'a', ':'] := by decide
  have start : trimStart (' ' :: text) = text := by
    cases text with
    | nil => simp at visible
    | cons first text =>
        have here : isSpace first = false := by simpa using visible
        have blank : isSpace ' ' = true := by decide
        rw [trimStart, List.dropWhile_cons_of_pos blank,
          List.dropWhile_cons_of_neg (by simp [here])]
  simp [BlockLines.read, dataField_eq, event, data, start]

theorem head_write_object (fields : List (String × Value (PythonNumber D))) :
    (JsonText.write .compact doubles.numberText (.object fields)).head?.map isSpace =
      some false := by
  cases fields with
  | nil => rw [JsonText.write]; decide
  | cons field fields =>
      rw [JsonText.write, List.head?_cons]
      decide

/-- The client dispatches what `JSON.parse` reads of a block. -/
theorem dispatch_block {name : String} (named : EventName name)
    {fields : List (String × Value (PythonNumber D))} (keyed : (Value.object fields).Keyed) :
    dispatchChatStreamBlock doubles (block doubles name (.object fields)) =
      dispatchPayload doubles name.toList
        (payloadOf doubles (JsonText.write .compact doubles.numberText (.object fields))) := by
  have lines : (lineBreak.split (block doubles name (.object fields))).foldl
      BlockLines.read {} = ⟨name.toList,
        [JsonText.write .compact doubles.numberText (.object fields)]⟩ := by
    rw [split_block doubles keyed named, List.foldl_cons, read_eventLine named,
      List.foldl_cons, read_dataLine name.toList (head_write_object doubles fields),
      List.foldl_nil]
  rw [dispatchChatStreamBlock, lines]
  simp [List.intercalate]

theorem payloadOf_write {payload : Value (PythonNumber D)} (keyed : payload.Keyed) :
    payloadOf doubles (JsonText.write .compact doubles.numberText payload) =
      if payload.allNumbers doubles.finiteNumber then payload.map doubles.toDouble
      else .object [("delta", .text
        (String.ofList (JsonText.write .compact doubles.numberText payload)))] := by
  rw [payloadOf, jsonParse_write doubles keyed]
  split_ifs <;> rfl

/-- A payload that says its type. -/
theorem dispatchPayload_typed {type : String} (nonempty : type ≠ "") (eventName : List Char)
    (fields : List (String × Value D)) :
    dispatchPayload doubles eventName (.object (("type", .text type) :: fields)) =
      dispatchType doubles (dotted type.toList) (.object (("type", .text type) :: fields)) := by
  have said : typeOf doubles eventName (.object (("type", .text type) :: fields)) =
      some type.toList := by
    simp [typeOf, property, truthy, stringOf, nonempty]
  rw [dispatchPayload, said]
  nofun

/-- What was no JSON has the type of its event. -/
theorem dispatchPayload_raw (eventName : List Char) (raw : String) :
    dispatchPayload doubles eventName (.object [("delta", .text raw)]) =
      dispatchType doubles (dotted eventName) (.object [("delta", .text raw)]) := by
  have unsaid : typeOf doubles eventName (.object [("delta", .text raw)]) =
      some eventName := by
    simp [typeOf, property, List.lookup]
  rw [dispatchPayload, unsaid]
  nofun

/-! ## Events -/

section Named

variable {name : String} (named : EventName name)
  {fields : List (String × Value (PythonNumber D))}
  (keyed : (Value.object (("type", .text name) :: fields)).Keyed)
include named keyed

/-- An event whose numbers are finite is dispatched with its payload. -/
theorem dispatch_finite (finite : Value.allNumbers.allFields doubles.finiteNumber fields = true) :
    dispatchChatStreamBlock doubles
        (block doubles name (.object (("type", .text name) :: fields))) =
      dispatchType doubles name.toList
        (.object (("type", .text name) :: Value.map.mapFields doubles.toDouble fields)) := by
  have numbers : (Value.object (("type", .text name) :: fields)).allNumbers
      doubles.finiteNumber = true := finite
  have payload : (Value.object (("type", .text name) :: fields)).map doubles.toDouble =
      .object (("type", .text name) :: Value.map.mapFields doubles.toDouble fields) := rfl
  rw [dispatch_block doubles named keyed, payloadOf_write doubles keyed, if_pos numbers,
    payload, dispatchPayload_typed doubles named.nonempty, named.dotted]

/-- Any other event is dispatched with nothing but its text. -/
theorem dispatch_infinite
    (infinite : Value.allNumbers.allFields doubles.finiteNumber fields = false) :
    ∃ raw, dispatchChatStreamBlock doubles
        (block doubles name (.object (("type", .text name) :: fields))) =
      dispatchType doubles name.toList (.object [("delta", .text raw)]) := by
  have numbers : ¬(Value.object (("type", .text name) :: fields)).allNumbers
      doubles.finiteNumber = true := ne_true_of_eq_false infinite
  refine ⟨String.ofList (JsonText.write .compact doubles.numberText
    (.object (("type", .text name) :: fields))), ?_⟩
  rw [dispatch_block doubles named keyed, payloadOf_write doubles keyed, if_neg numbers,
    dispatchPayload_raw, named.dotted]

end Named

theorem dispatchType_status (payload : Value D) :
    dispatchType doubles "message.status".toList payload = dispatchStatus payload := by
  rw [dispatchType, if_pos (by decide)]

theorem dispatchType_delta (payload : Value D) :
    dispatchType doubles "message.delta".toList payload = dispatchDelta payload := by
  rw [dispatchType, if_neg (by decide), if_pos (by decide)]

theorem dispatchType_sources (payload : Value D) :
    dispatchType doubles "message.sources".toList payload =
      match property "sources" payload with
      | some (.list sources) => .call (.onSources sources)
      | _ => .done := by
  rw [dispatchType, if_neg (by decide), if_neg (by decide), dispatchOther,
    if_pos (by decide), if_neg (by decide), if_neg (by decide)]
  rfl

theorem dispatchType_completed (payload : Value D) :
    dispatchType doubles "message.completed".toList payload =
      match (property "message" payload).filter (truthy doubles) with
      | some message => .call (.onMessage message)
      | none => .done := by
  rw [dispatchType, if_neg (by decide), if_neg (by decide), dispatchOther,
    if_neg (by decide), if_pos (by decide)]
  cases (property "message" payload).filter (truthy doubles) with
  | some message => rfl
  | none => exact if_neg (by decide)

theorem dispatchType_error (payload : Value D) :
    dispatchType doubles "error".toList payload =
      .throw (.apiError 502 (textProperty "code" payload)
        ((textProperty "message" payload).getD "The chat stream failed.")) := by
  rw [dispatchType, if_neg (by decide), if_neg (by decide), dispatchOther,
    if_neg (by decide), if_neg (by decide), if_pos rfl]
  rfl

/-- The handler of an event is called with its values, unless a number of it is not
finite. -/
theorem dispatch_event (event : ChatEvent D) :
    dispatchChatStreamBlock doubles (block doubles event.name event.payload) =
      if event.isFinite doubles then .call (event.handlerCall doubles) else .done := by
  have named := eventName_of event
  have keyed := keyed_payload event
  cases event with
  | status text =>
      have finite : (ChatEvent.status text).isFinite doubles = true := rfl
      rw [if_pos finite]
      refine (dispatch_finite doubles named keyed rfl).trans ?_
      exact dispatchType_status doubles _
  | delta text =>
      have finite : (ChatEvent.delta text).isFinite doubles = true := rfl
      rw [if_pos finite]
      refine (dispatch_finite doubles named keyed rfl).trans ?_
      exact dispatchType_delta doubles _
  | sources items =>
      split_ifs with finite
      · refine (dispatch_finite doubles named keyed finite).trans ?_
        refine (dispatchType_sources doubles _).trans ?_
        have said : property "sources" (.object
            (("type", .text (ChatEvent.sources items).name) :: Value.map.mapFields doubles.toDouble [("sources", dictionaries items)])) =
              some ((dictionaries items).map doubles.toDouble) := rfl
        rw [said, map_dictionaries]
        rfl
      · obtain ⟨raw, none⟩ := dispatch_infinite doubles named keyed (eq_false_of_ne_true finite)
        refine none.trans ?_
        exact dispatchType_sources doubles _
  | completed message =>
      split_ifs with finite
      · refine (dispatch_finite doubles named keyed finite).trans ?_
        refine (dispatchType_completed doubles _).trans ?_
        have said : property "message" (.object
            (("type", .text (ChatEvent.completed message).name) :: Value.map.mapFields
              doubles.toDouble [("message", chatMessageResponse message)])) =
              some ((chatMessageResponse message).map doubles.toDouble) := rfl
        rw [said]
        rfl
      · obtain ⟨raw, none⟩ := dispatch_infinite doubles named keyed (eq_false_of_ne_true finite)
        refine none.trans ?_
        exact dispatchType_completed doubles _

theorem dispatch_error :
    dispatchChatStreamBlock doubles (block doubles "error" errorPayload) =
      .throw chatGenerationFailed := by
  refine (dispatch_finite doubles eventName_error keyed_errorPayload rfl).trans ?_
  exact dispatchType_error doubles _

/-! ## Streams -/

namespace Outcome

theorem done_andThen (second : Outcome D) : done.andThen second = second :=
  rfl

theorem andThen_done (first : Outcome D) : first.andThen done = first := by
  obtain ⟨calls, thrown⟩ := first
  cases thrown <;> simp [andThen, done]

theorem andThen_assoc (first second third : Outcome D) :
    (first.andThen second).andThen third = first.andThen (second.andThen third) := by
  obtain ⟨calls, thrown⟩ := first
  obtain ⟨later, thrownLater⟩ := second
  cases thrown with
  | some error => rfl
  | none =>
      cases thrownLater <;> simp [andThen]

end Outcome

theorem dispatchAll_append (first second : List (List Char)) :
    dispatchAll doubles (first ++ second) =
      (dispatchAll doubles first).andThen (dispatchAll doubles second) := by
  induction first with
  | nil => rfl
  | cons block first induction =>
      rw [List.cons_append, dispatchAll, induction, dispatchAll, Outcome.andThen_assoc]

/-- The loop dispatches what the splitter completes and then what is left over. -/
theorem readLoop_eq (decoder : TextDecoder) (buffer : List Char) (reads : List (List UInt8)) :
    readLoop doubles decoder buffer reads =
      (dispatchAll doubles (blankLine.feed buffer (decoder.decodeAll reads)).1).andThen
        (dispatchRest doubles (blankLine.feed buffer (decoder.decodeAll reads)).2) := by
  induction reads generalizing decoder buffer with
  | nil =>
      simp only [readLoop, TextDecoder.decodeAll, Separator.feed, List.append_nil]
  | cons value reads induction =>
      simp only [readLoop, TextDecoder.decodeAll, Separator.feed, induction,
        dispatchAll_append, Outcome.andThen_assoc]

/-- The cuts between the reads make no difference. -/
theorem streamChatMessage_eq {text : List Char} (noMark : text.head? ≠ some byteOrderMark)
    {reads : List (List UInt8)} (bytes : reads.flatten = utf8 text) :
    streamChatMessage doubles reads =
      (dispatchAll doubles (blankLine.split text).dropLast).andThen
        (dispatchRest doubles (leftOver (blankLine.split text))) := by
  have whole : ([] ++ (TextDecoder.decodeAll {} reads).flatten) = text := by
    rw [List.nil_append, decodeAll_utf8 noMark bytes]
  rw [streamChatMessage, readLoop_eq, steady_blankLine.feed_eq Separator.split_nil, whole]

/-- The blocks of the text of a stream. -/
def SentEvents.blocks (sent : SentEvents D) : List (List Char) :=
  sent.events.map (fun event => block doubles event.name event.payload) ++
    if sent.failed then [block doubles "error" errorPayload] else []

theorem split_text (sent : SentEvents D) :
    blankLine.split (sent.text doubles) = sent.blocks doubles ++ [[]] := by
  obtain ⟨events, failed⟩ := sent
  have last : blankLine.split
      (if failed then sseEvent doubles "error" errorPayload else []) =
        (if failed then [block doubles "error" errorPayload] else []) ++ [[]] := by
    cases failed with
    | false => exact Separator.split_nil
    | true =>
        have only := split_sseEvent doubles keyed_errorPayload eventName_error []
        rw [List.append_nil, Separator.split_nil] at only
        exact only
  simp only [SentEvents.text, SentEvents.blocks]
  induction events with
  | nil => simpa using last
  | cons event events induction =>
      rw [List.flatMap_cons, List.append_assoc,
        split_sseEvent doubles (keyed_payload event) (eventName_of event), induction]
      rfl

/-- The blocks are dispatched in their order. -/
theorem dispatchAll_blocks (sent : SentEvents D) :
    dispatchAll doubles (sent.blocks doubles) =
      ⟨(sent.events.filter (·.isFinite doubles)).map (·.handlerCall doubles),
        if sent.failed then some chatGenerationFailed else none⟩ := by
  obtain ⟨events, failed⟩ := sent
  simp only [SentEvents.blocks]
  induction events with
  | nil =>
      cases failed with
      | false => rfl
      | true =>
          rw [List.map_nil, List.nil_append, if_pos rfl, dispatchAll, dispatch_error]
          rfl
  | cons event events induction =>
      rw [List.map_cons, List.cons_append, dispatchAll, induction, dispatch_event]
      cases finite : event.isFinite doubles with
      | false => simp [Outcome.done_andThen, finite]
      | true => simp [Outcome.andThen, Outcome.call, finite]

theorem head_text (sent : SentEvents D) :
    (sent.text doubles).head? ≠ some byteOrderMark := by
  have first (name : String) (payload : Value (PythonNumber D)) (rest : List Char) :
      (sseEvent doubles name payload ++ rest).head? ≠ some byteOrderMark := by
    rw [sseEvent, block, eventField_eq]
    intro mark
    have letter : 'e' = byteOrderMark := Option.some.inj mark
    exact absurd letter (by decide)
  obtain ⟨events, failed⟩ := sent
  cases events with
  | nil =>
      cases failed with
      | false =>
          intro mark
          cases mark
      | true =>
          have only := first "error" errorPayload []
          rwa [List.append_nil] at only
  | cons event events =>
      have front := first event.name event.payload
        (events.flatMap (fun event => sseEvent doubles event.name event.payload) ++
          if failed then sseEvent doubles "error" errorPayload else [])
      rwa [← List.append_assoc] at front

/-- Whatever the reads are, the client calls the handlers of the events whose numbers are
finite, and throws the error at the end. -/
theorem streamChatMessage_outcome (sent : SentEvents D) {reads : List (List UInt8)}
    (bytes : reads.flatten = utf8 (sent.text doubles)) :
    streamChatMessage doubles reads =
      ⟨(sent.events.filter (·.isFinite doubles)).map (·.handlerCall doubles),
        if sent.failed then some chatGenerationFailed else none⟩ := by
  have rest : dispatchRest doubles (leftOver (sent.blocks doubles ++ [[]])) = .done := by
    rw [leftOver_append _ (List.cons_ne_nil _ _)]
    rfl
  rw [streamChatMessage_eq doubles (head_text doubles sent) bytes, split_text, rest,
    Outcome.andThen_done, List.dropLast_concat, dispatchAll_blocks]

/-- Every event reached its handler, in order, and the error at the end was thrown. -/
structure RoundTrips (sent : SentEvents D) (outcome : Outcome D) : Prop where
  calls : outcome.calls = sent.events.map (·.handlerCall doubles)
  throws : outcome.thrown = if sent.failed then some chatGenerationFailed else none

/-- A stream makes its round trip, however it is cut into reads, exactly if every number
in it is finite. -/
theorem chat_stream_round_trip (sent : SentEvents D) {reads : List (List UInt8)}
    (bytes : reads.flatten = utf8 (sent.text doubles)) :
    RoundTrips doubles sent (streamChatMessage doubles reads) ↔
      ∀ event ∈ sent.events, event.isFinite doubles = true := by
  rw [streamChatMessage_outcome doubles sent bytes]
  constructor
  · intro trip event member
    have length : (sent.events.filter (·.isFinite doubles)).length = sent.events.length := by
      simpa using congrArg List.length trip.calls
    exact List.length_filter_eq_length_iff.mp length event member
  · intro finite
    rw [List.filter_eq_self.mpr finite]
    exact ⟨rfl, rfl⟩

/-! ## Whole doubles -/

/-- Doubles without a fraction. -/
inductive WholeDouble
  | whole (value : Int)
  | nan
  | infinity
  | negativeInfinity
deriving DecidableEq, Repr

theorem isNumber_whole (value : Int) :
    JsonText.isNumber (JsonText.writeInt value ++ ['.', '0']) = true := by
  have digits : ∀ character ∈ Nat.toDigits 10 value.natAbs, character.isDigit = true :=
    fun _ member => Nat.isDigit_of_mem_toDigits (by decide) (by decide) member
  have unsigned :
      JsonText.isUnsigned (Nat.toDigits 10 value.natAbs ++ ['.', '0']) = true := by
    rw [JsonText.isUnsigned, List.takeWhile_append_of_pos digits,
      List.dropWhile_append_of_pos digits]
    have whole : ['.', '0'].takeWhile Char.isDigit = [] := by decide
    have fraction : JsonText.isFraction (['.', '0'].dropWhile Char.isDigit) = true := by
      decide
    rw [whole, List.append_nil, JsonText.readNat_toDigits, fraction]
    rfl
  rw [JsonText.writeInt]
  split_ifs with negative
  · exact unsigned
  · exact JsonText.isNumber_of_isUnsigned unsigned

theorem takeWhile_whole (value : Int) :
    (JsonText.writeInt value ++ ['.', '0']).takeWhile (· ≠ '.') = JsonText.writeInt value := by
  have noPoint : ∀ character ∈ JsonText.writeInt value,
      decide (character ≠ '.') = true := by
    intro character member
    rw [decide_eq_true_iff]
    rintro rfl
    have digit (member : '.' ∈ Nat.toDigits 10 value.natAbs) : False :=
      absurd (Nat.isDigit_of_mem_toDigits (by decide) (by decide) member) (by decide)
    rw [JsonText.writeInt] at member
    split_ifs at member
    · exact digit (List.mem_of_ne_of_mem (by decide) member)
    · exact digit member
  rw [List.takeWhile_append_of_pos noPoint]
  simp

/-- `5.0` is the text of a double without a fraction. -/
def wholeDoubles : Doubles WholeDouble where
  kind
    | .whole _ => .finite
    | .nan => .nan
    | .infinity => .infinity
    | .negativeInfinity => .negativeInfinity
  repr
    | .whole value => JsonText.writeInt value ++ ['.', '0']
    | _ => []
  nearest token := .whole ((JsonText.readInt (token.takeWhile (· ≠ '.'))).getD 0)
  falsy double := double = .whole 0 || double = .nan
  shown
    | .whole value => JsonText.writeInt value
    | .nan => "NaN".toList
    | .infinity => "Infinity".toList
    | .negativeInfinity => "-Infinity".toList
  isNumber_repr double finite := by
    cases double with
    | whole value => exact isNumber_whole value
    | nan | infinity | negativeInfinity => exact absurd finite nofun
  nearest_repr double finite := by
    cases double with
    | whole value =>
        simp only [takeWhile_whole, JsonText.readInt_writeInt, Option.getD_some]
    | nan | infinity | negativeInfinity => exact absurd finite nofun

/-- A delta cut inside its block. -/
theorem chat_stream_round_trip_cut :
    RoundTrips wholeDoubles ⟨[.delta "§ 7"], false⟩
      (streamChatMessage wholeDoubles
        [(utf8 (SentEvents.text wholeDoubles ⟨[.delta "§ 7"], false⟩)).take 40,
          (utf8 (SentEvents.text wholeDoubles ⟨[.delta "§ 7"], false⟩)).drop 40]) :=
  (chat_stream_round_trip wholeDoubles ⟨[.delta "§ 7"], false⟩ (by simp)).mpr
    (by decide)

def lostCard : SourceCard WholeDouble where
  id := "S1"
  chunkId := "chunk-1"
  contractId := "contract-1"
  contractVersionId := "version-1"
  contractTitle := "Master agreement"
  pageNumber := some 3
  sourceType := "knowledge_chunk"
  excerpt := "Either party may terminate."
  relevance := .infinity

/-- An answer with one source, whose reranker scored it `1e999`. -/
def lostAnswer : SentEvents WholeDouble :=
  let finish (content : String) : Except Unit _ :=
    .ok ([lostCard], ⟨"message-1", "assistant", content, [lostCard.dictionary],
      "2025-01-01 00:00:00"⟩)
  eventStream finish [.tool, .delta "Yes [S1].", .completed "Yes [S1]."]

/-- Neither the sources nor the message reach their handlers. -/
theorem infinite_relevance_lost :
    ¬RoundTrips wholeDoubles lostAnswer
      (streamChatMessage wholeDoubles [utf8 (lostAnswer.text wholeDoubles)]) := by
  intro trip
  have calls := congrArg List.length trip.calls
  rw [streamChatMessage_outcome wholeDoubles lostAnswer (by simp), List.length_map,
    List.length_map] at calls
  exact absurd calls (by decide)

end ChatStream

end ContractMate
