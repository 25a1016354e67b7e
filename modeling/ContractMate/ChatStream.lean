import ContractMate.JsonValues
import ContractMate.PythonText
import ContractMate.StreamDecoder
import ContractMate.TextSplitting

/-!
# Chat streams

`send_chat_message` streams its answer as server-sent events, and `streamChatMessage` in
the frontend hands each event to a handler.  The reads of the browser may cut the bytes
anywhere.
-/

namespace ContractMate

namespace ChatStream

open JsonText (Value)
open TextSplitting StreamDecoder

/-! ## Numbers -/

inductive FloatKind
  | finite
  | nan
  | infinity
  | negativeInfinity
deriving DecidableEq, Repr

/-- Doubles, as `json` writes them and `JSON.parse` reads them.  The text of a finite
double is a number whose value is that double. -/
structure Doubles (D : Type) where
  kind : D → FloatKind
  /-- `float.__repr__` -/
  repr : D → List Char
  /-- the double nearest to a number -/
  nearest : List Char → D
  /-- `0`, `-0` and `NaN` -/
  falsy : D → Bool
  /-- `Number::toString` -/
  shown : D → List Char
  isNumber_repr : ∀ double, kind double = .finite → JsonText.isNumber (repr double) = true
  nearest_repr : ∀ double, kind double = .finite → nearest (repr double) = double

variable {D : Type} (doubles : Doubles D)

/-- An `int` or a `float`. -/
abbrev PythonNumber (D : Type) := Int ⊕ D

namespace Doubles

def isFinite (double : D) : Bool :=
  doubles.kind double = .finite

/-- `floatstr` of the JSON encoder. -/
def floatstr (double : D) : List Char :=
  match doubles.kind double with
  | .finite => doubles.repr double
  | .nan => "NaN".toList
  | .infinity => "Infinity".toList
  | .negativeInfinity => "-Infinity".toList

def numberText : PythonNumber D → List Char
  | .inl value => JsonText.writeInt value
  | .inr double => doubles.floatstr double

/-- The JavaScript number of a Python one. -/
def toDouble : PythonNumber D → D
  | .inl value => doubles.nearest (JsonText.writeInt value)
  | .inr double => double

def finiteNumber : PythonNumber D → Bool
  | .inl _ => true
  | .inr double => doubles.isFinite double

/-- `JSON.parse`. -/
def jsonParse (text : List Char) : Option (Value D) :=
  JsonText.read (JsonText.numberWith doubles.nearest) text

end Doubles

/-! ## The server -/

/-- A dictionary of JSON values. -/
structure Dictionary (D : Type) where
  fields : List (String × Value (PythonNumber D))
  keyed : (Value.object fields).Keyed

/-- A source card of `chat_source_cards`. -/
structure SourceCard (D : Type) where
  id : String
  chunkId : String
  contractId : String
  contractVersionId : String
  contractTitle : String
  pageNumber : Option Int
  sourceType : String
  excerpt : String
  relevance : D
deriving DecidableEq, Repr

def SourceCard.fields (card : SourceCard D) : List (String × Value (PythonNumber D)) :=
  [("id", .text card.id),
    ("chunk_id", .text card.chunkId),
    ("contract_id", .text card.contractId),
    ("contract_version_id", .text card.contractVersionId),
    ("contract_title", .text card.contractTitle),
    ("page_number", match card.pageNumber with
      | none => .null
      | some page => .number (.inl page)),
    ("source_type", .text card.sourceType),
    ("excerpt", .text card.excerpt),
    ("relevance", .number (.inr card.relevance))]

theorem SourceCard.keyed (card : SourceCard D) : (Value.object card.fields).Keyed := by
  refine ⟨by simp [SourceCard.fields], ?_⟩
  cases page : card.pageNumber <;>
    simp [SourceCard.fields, page, Value.Keyed.fieldsKeyed, Value.Keyed]

def SourceCard.dictionary (card : SourceCard D) : Dictionary D :=
  ⟨card.fields, card.keyed⟩

/-- A persisted answer, as far as `chat_message_response` reads it; `createdAt` is the
text of its time. -/
structure PersistedChatMessage (D : Type) where
  id : String
  role : String
  content : String
  citations : List (Dictionary D)
  createdAt : String

def dictionaries (items : List (Dictionary D)) : Value (PythonNumber D) :=
  .list (items.map fun item => .object item.fields)

def chatMessageResponse (message : PersistedChatMessage D) : Value (PythonNumber D) :=
  .object
    [("id", .text message.id),
      ("role", .text message.role),
      ("content", .text message.content),
      ("sources", dictionaries message.citations),
      ("created_at", .text message.createdAt)]

/-- What is streamed, apart from the error at the end. -/
inductive ChatEvent (D : Type)
  | status (status : String)
  | delta (delta : String)
  | sources (sources : List (Dictionary D))
  | completed (message : PersistedChatMessage D)

namespace ChatEvent

def name : ChatEvent D → String
  | status _ => "message.status"
  | delta _ => "message.delta"
  | sources _ => "message.sources"
  | completed _ => "message.completed"

def payload : ChatEvent D → Value (PythonNumber D)
  | status text => .object [("type", .text "message.status"), ("status", .text text)]
  | delta text => .object [("type", .text "message.delta"), ("delta", .text text)]
  | sources items =>
      .object [("type", .text "message.sources"), ("sources", dictionaries items)]
  | completed message =>
      .object [("type", .text "message.completed"), ("message", chatMessageResponse message)]

end ChatEvent

def errorPayload : Value (PythonNumber D) :=
  .object
    [("type", .text "error"),
      ("code", .text "chat_generation_failed"),
      ("message", .text "Samvid could not complete that contract answer.")]

def eventField : List Char :=
  "event: ".toList

def dataField : List Char :=
  "data: ".toList

/-- The lines of an event. -/
def block (event : String) (payload : Value (PythonNumber D)) : List Char :=
  (eventField ++ event.toList) ++
    '\n' :: (dataField ++ JsonText.write .compact doubles.numberText payload)

def sseEvent (event : String) (payload : Value (PythonNumber D)) : List Char :=
  block doubles event payload ++ ['\n', '\n']

/-- The events of a stream, and whether it ends with an error. -/
structure SentEvents (D : Type) where
  events : List (ChatEvent D)
  failed : Bool := false

def SentEvents.text (sent : SentEvents D) : List Char :=
  sent.events.flatMap (fun event => sseEvent doubles event.name event.payload) ++
    if sent.failed then sseEvent doubles "error" errorPayload else []

/-- An event of the chat agent. -/
inductive AgentEvent
  | tool
  | delta (content : String)
  | completed (content : String)
  | error (content : String)
deriving DecidableEq, Repr

section EventStream

-- the source cards of a completed answer and its persisted message
variable {E : Type} (finish : String → Except E (List (SourceCard D) × PersistedChatMessage D))

/-- The events of the agent, as far as it gets.  Whatever ends them without an answer
becomes the error event. -/
def followAgent : List AgentEvent → SentEvents D
  | [] => ⟨[], true⟩
  | .tool :: later =>
      let rest := followAgent later
      ⟨.status "Reading relevant contract evidence..." :: rest.events, rest.failed⟩
  | .delta content :: later =>
      let rest := followAgent later
      ⟨.delta content :: rest.events, rest.failed⟩
  | .completed content :: _ =>
      match finish content with
      | .error _ => ⟨[], true⟩
      | .ok (cards, message) =>
          if cards.isEmpty then ⟨[.completed message], false⟩
          else ⟨[.sources (cards.map SourceCard.dictionary), .completed message], false⟩
  | .error _ :: _ => ⟨[], true⟩

def eventStream (agent : List AgentEvent) : SentEvents D :=
  let rest := followAgent finish agent
  ⟨.status "Connecting to contract search..." :: rest.events, rest.failed⟩

end EventStream

/-! ## The client -/

/-- A call of a handler. -/
inductive HandlerCall (D : Type)
  | onStatus (status : String)
  | onDelta (delta : String)
  | onSources (sources : List (Value D))
  | onMessage (message : Value D)

inductive ClientError
  | typeError
  | apiError (status : Nat) (code : Option String) (message : String)
deriving DecidableEq, Repr

/-- The calls that were made, and what was thrown after them. -/
structure Outcome (D : Type) where
  calls : List (HandlerCall D) := []
  thrown : Option ClientError := none

namespace Outcome

def done : Outcome D := {}

def call (call : HandlerCall D) : Outcome D where
  calls := [call]

def throw (error : ClientError) : Outcome D where
  thrown := some error

/-- One after the other, unless the first throws. -/
def andThen (first second : Outcome D) : Outcome D :=
  match first.thrown with
  | some error => ⟨first.calls, some error⟩
  | none => ⟨first.calls ++ second.calls, second.thrown⟩

end Outcome

/-- The white space that `trim` removes. -/
def isSpace (character : Char) : Bool :=
  let code := character.toNat
  9 ≤ code && code ≤ 13 || code = 0x20 || code = 0xA0 || code = 0x1680 ||
    0x2000 ≤ code && code ≤ 0x200A || code = 0x2028 || code = 0x2029 || code = 0x202F ||
    code = 0x205F || code = 0x3000 || code = 0xFEFF

def trimStart (text : List Char) : List Char :=
  text.dropWhile isSpace

def trim (text : List Char) : List Char :=
  (trimStart (trimStart text).reverse).reverse

/-- `/\r?\n/`. -/
def cutLine : List Char → Option (List Char)
  | '\r' :: '\n' :: rest => some rest
  | '\n' :: rest => some rest
  | _ => none

/-- `/\r?\n\r?\n/`. -/
def cutBlock (text : List Char) : Option (List Char) :=
  (cutLine text).bind cutLine

theorem cutLine_shrinks (text rest : List Char) (found : cutLine text = some rest) :
    rest.length < text.length := by
  rw [cutLine.eq_def] at found
  split at found
  · cases found
    simp only [List.length_cons]
    omega
  · cases found
    exact Nat.lt_succ_self _
  · simp at found

def lineBreak : Separator Char where
  cut := cutLine
  shrinks := cutLine_shrinks

def blankLine : Separator Char where
  cut := cutBlock
  shrinks text rest found := by
    obtain ⟨middle, first, second⟩ := Option.bind_eq_some_iff.mp found
    exact Nat.lt_trans (cutLine_shrinks _ _ second) (cutLine_shrinks _ _ first)

/-- What the lines of a block say. -/
structure BlockLines where
  eventName : List Char := "message".toList
  data : List (List Char) := []
deriving DecidableEq, Repr

def BlockLines.read (lines : BlockLines) (line : List Char) : BlockLines :=
  let lines := if "event:".toList.isPrefixOf line then
    { lines with eventName := trim (line.drop 6) } else lines
  if "data:".toList.isPrefixOf line then
    { lines with data := lines.data ++ [trimStart (line.drop 5)] }
  else lines

section Payload

/-- A property of a value, `none` if it is undefined. -/
def property (key : String) : Value D → Option (Value D)
  | .object fields => fields.lookup key
  | _ => none

def truthy : Value D → Bool
  | .null => false
  | .bool value => value
  | .number double => !doubles.falsy double
  | .text text => text ≠ ""
  | .list _ | .object _ => true

/-- `String(value)`; an object with a property `toString` has no text. -/
def stringOf : Value D → Option (List Char)
  | .null => some "null".toList
  | .bool true => some "true".toList
  | .bool false => some "false".toList
  | .number double => some (doubles.shown double)
  | .text text => some text.toList
  | .list items => (itemTexts items).map (List.intercalate [','])
  | .object fields =>
      if (fields.lookup "toString").isSome then none else some "[object Object]".toList
where
  -- the items of `join`, where `null` is empty
  itemTexts : List (Value D) → Option (List (List Char))
    | [] => some []
    | .null :: items => (itemTexts items).map ([] :: ·)
    | item :: items => do
        let first ← stringOf item
        let others ← itemTexts items
        some (first :: others)

/-- `String(payload.type || eventName)`. -/
def typeOf (eventName : List Char) (payload : Value D) : Option (List Char) :=
  match property "type" payload with
  | none => some eventName
  | some value => if truthy doubles value then stringOf doubles value else some eventName

/-- `??`. -/
def orElse : Option (Value D) → Option (Value D) → Option (Value D)
  | some .null, other => other
  | none, other => other
  | some value, _ => some value

def textProperty (key : String) (payload : Value D) : Option String :=
  match property key payload with
  | some (.text text) => some text
  | _ => none

def dispatchStatus (payload : Value D) : Outcome D :=
  match textProperty "status" payload with
  | some status => .call (.onStatus status)
  | none => .done

def dispatchDelta (payload : Value D) : Outcome D :=
  match orElse (property "delta" payload)
      (orElse (property "token" payload) (property "content" payload)) with
  | some (.text delta) => .call (.onDelta delta)
  | _ => .done

/-- The branches after those for statuses and deltas, from the sources on. -/
def dispatchOther (type : List Char) (payload : Value D) : Outcome D :=
  let sources := if type ∈ ["message.sources", "sources"].map String.toList then
    property "sources" payload else none
  let message := if type ∈ ["message.completed", "completed", "done"].map String.toList then
    property "message" payload else none
  match sources with
  | some (.list sources) => .call (.onSources sources)
  | _ =>
      match message.filter (truthy doubles) with
      | some message => .call (.onMessage message)
      | none =>
          if type = "error".toList then
            .throw (.apiError 502 (textProperty "code" payload)
              ((textProperty "message" payload).getD "The chat stream failed."))
          else .done

def dispatchType (type : List Char) (payload : Value D) : Outcome D :=
  if type ∈ ["message.status", "status"].map String.toList then dispatchStatus payload
  else if type ∈ ["message.delta", "delta", "token"].map String.toList then
    dispatchDelta payload
  else dispatchOther doubles type payload

/-- `.replace(/_/g, ".")`. -/
def dotted (text : List Char) : List Char :=
  text.map fun character => if character = '_' then '.' else character

def dispatchPayload (eventName : List Char) (payload : Value D) : Outcome D :=
  match payload with
  | .null => .throw .typeError
  | _ =>
      match typeOf doubles eventName payload with
      | none => .throw .typeError
      | some type => dispatchType doubles (dotted type) payload

end Payload

/-- What is no JSON counts as the text of a delta. -/
def payloadOf (raw : List Char) : Value D :=
  (doubles.jsonParse raw).getD (.object [("delta", .text (String.ofList raw))])

def dispatchChatStreamBlock (block : List Char) : Outcome D :=
  let lines := (lineBreak.split block).foldl BlockLines.read {}
  if lines.data.isEmpty then .done
  else dispatchPayload doubles lines.eventName
    (payloadOf doubles (['\n'].intercalate lines.data))

def dispatchAll : List (List Char) → Outcome D
  | [] => .done
  | block :: blocks => (dispatchChatStreamBlock doubles block).andThen (dispatchAll blocks)

/-- What is left in the buffer after the last read. -/
def dispatchRest (buffer : List Char) : Outcome D :=
  if (trim buffer).isEmpty then .done else dispatchChatStreamBlock doubles buffer

/-- The loop of `streamChatMessage` over the reads of the response body. -/
def readLoop (decoder : TextDecoder) (buffer : List Char) : List (List UInt8) → Outcome D
  | [] =>
      let blocks := blankLine.split (buffer ++ decoder.finish)
      (dispatchAll doubles blocks.dropLast).andThen (dispatchRest doubles (leftOver blocks))
  | value :: reads =>
      let (decoder, text) := decoder.decode value
      let blocks := blankLine.split (buffer ++ text)
      (dispatchAll doubles blocks.dropLast).andThen
        (readLoop decoder (leftOver blocks) reads)

def streamChatMessage (reads : List (List UInt8)) : Outcome D :=
  readLoop doubles {} [] reads

end ChatStream

end ContractMate
