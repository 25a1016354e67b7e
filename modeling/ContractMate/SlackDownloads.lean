import ContractMate.ProgramTraces
import ContractMate.PythonText
import ContractMate.ReviewJobs

/-!
# Downloads from Slack

`SlackIntakeWorker._download` follows redirects by itself: the client is asked for one
response at a time, and every address is checked before the token is sent to it.
-/

namespace ContractMate

namespace SlackDownloads

open PythonText

/-- What `urlparse` gives. -/
structure ParsedUrl where
  scheme : Text
  hostname : Option Text
deriving DecidableEq, Repr

/-- The parsing and joining of addresses, either of which may raise `ValueError`, the case
folding of host names, and the message of a response that `raise_for_status` refuses. -/
structure UrlLibrary where
  urlparse : Text → Except Exn ParsedUrl
  urljoin : Text → Text → Except Exn Text
  casefold : Text → Text
  statusMessage : Nat → Text → String

/-- The status and the `location` header of a response. -/
structure DownloadResponse where
  statusCode : Nat
  location : Option Text
deriving DecidableEq, Repr

namespace DownloadResponse

/-- `is_redirect`. -/
def isRedirect (response : DownloadResponse) : Bool :=
  300 ≤ response.statusCode && response.statusCode ≤ 399

/-- `is_success`. -/
def isSuccess (response : DownloadResponse) : Bool :=
  200 ≤ response.statusCode && response.statusCode ≤ 299

end DownloadResponse

/-- `iter_bytes` yields no empty chunk. -/
abbrev Chunk := { bytes : List UInt8 // bytes ≠ [] }

inductive DownloadCall where
  /-- Enter `stream("GET", url)` with the token in the `Authorization` header. -/
  | get (url token : Text)
  | openDestination
  | nextChunk
  | write (bytes : List UInt8)
  | closeDestination
  | closeResponse
deriving DecidableEq, Repr

def DownloadCall.Ret : DownloadCall → Type
  | get _ _ => DownloadResponse
  | nextChunk => Option Chunk
  | _ => Unit

abbrev DownloadProg := Prog DownloadCall DownloadCall.Ret Exn

abbrev ask (request : DownloadCall) : DownloadProg request.Ret :=
  Prog.perform request

abbrev DownloadLog := List (Prog.Answered DownloadCall DownloadCall.Ret Exn)

/-- `_ALLOWED_SLACK_FILE_HOSTS`. -/
def allowedSlackFileHosts : List Text :=
  ["files.slack.com".toList, "slack-files.com".toList]

section Download

variable (library : UrlLibrary) (token : Text) (maxBytes : Nat)

/-- `_validate_slack_file_url`. -/
def validateSlackFileUrl (url : Text) : Except Exn Unit :=
  match library.urlparse url with
  | .error error => .error error
  | .ok parsed =>
      let hostname := library.casefold (parsed.hostname.getD [])
      if parsed.scheme ≠ "https".toList ∨ hostname ∉ allowedSlackFileHosts then
        .error (Exn.valueError "file URL is not an approved Slack HTTPS host")
      else .ok ()

/-- The chunks from one of them on, `size` bytes having been written. -/
def saveChunks (size : Nat) : DownloadProg Unit :=
  .call .nextChunk fun
    | .error error => .done (.error error)
    | .ok none => .done (.ok ())
    | .ok (some chunk) =>
        if maxBytes < size + chunk.val.length then
          Prog.raise (Exn.valueError "file exceeds the configured size limit")
        else
          (ask (.write chunk.val)).andThen fun _ => saveChunks (size + chunk.val.length)
termination_by maxBytes - size
decreasing_by
  have nonempty := List.length_pos_iff.mpr chunk.property
  omega

/-- What is done with a response: the address of a redirect, or none once the body is
saved. -/
def receive (current : Text) (response : DownloadResponse) : DownloadProg (Option Text) :=
  if response.isRedirect then
    match response.location with
    | none | some [] => Prog.raise (Exn.valueError "Slack returned an empty file redirect")
    | some location =>
        match library.urljoin current location with
        | .error error => Prog.raise error
        | .ok next => pure (some next)
  else if response.isSuccess then do
    let _ ← ask .openDestination
    let _ ← Prog.tryFinally (saveChunks maxBytes 0) (ask .closeDestination)
    pure none
  else
    Prog.raise ⟨.httpError, library.statusMessage response.statusCode current⟩

/-- One pass of the loop. -/
def attempt (current : Text) : DownloadProg (Option Text) :=
  match validateSlackFileUrl library current with
  | .error error => Prog.raise error
  | .ok _ => do
      let response ← ask (.get current token)
      Prog.tryFinally (receive library maxBytes current response)
        (ask .closeResponse)

/-- The loop, with the passes that are left. -/
def downloadFrom : Nat → Text → DownloadProg Unit
  | 0, _ => Prog.raise (Exn.valueError "Slack file download redirected too many times")
  | passes + 1, current => do
      match ← attempt library token maxBytes current with
      | none => pure ()
      | some next => downloadFrom passes next

/-- `_download`. -/
def download (url : Text) : DownloadProg Unit :=
  downloadFrom library token maxBytes 4 url

end Download

/-! ## Traces -/

/-- The addresses that the token is sent to. -/
def requested (log : DownloadLog) : List (Text × Text) :=
  log.filterMap fun answer =>
    match answer.request with
    | .get url token => some (url, token)
    | _ => none

/-- The bytes that are given to the destination. -/
def written (log : DownloadLog) : List UInt8 :=
  log.flatMap fun answer =>
    match answer.request with
    | .write bytes => bytes
    | _ => []

/-- A chunk is read and written. -/
def savedChunk (chunk : Chunk) : DownloadLog :=
  [⟨.nextChunk, .ok (some chunk)⟩, ⟨.write chunk.val, .ok ()⟩]

/-- The body of a response is read to its end, and each chunk is written. -/
def savedBody (chunks : List Chunk) : DownloadLog :=
  chunks.flatMap savedChunk ++ [⟨.nextChunk, .ok none⟩]

section Logs

variable {front back : DownloadLog}

@[simp]
theorem requested_append : requested (front ++ back) = requested front ++ requested back :=
  List.filterMap_append

@[simp]
theorem written_append : written (front ++ back) = written front ++ written back :=
  List.flatMap_append

theorem written_savedBody (chunks : List Chunk) :
    written (savedBody chunks) = chunks.flatMap Subtype.val := by
  induction chunks with
  | nil => rfl
  | cons chunk chunks induction =>
      rw [savedBody, written_append] at induction
      rw [savedBody, written_append, List.flatMap_cons, List.flatMap_cons, written_append,
        List.append_assoc, induction]
      simp [written, savedChunk]

end Logs

section Traces

variable {library : UrlLibrary} {token : Text} {maxBytes : Nat} {log : DownloadLog}

variable {result : Except Exn Unit} {current : Text}

/-- The chunks are written as long as they fit, and nothing is requested. -/
theorem takes_saveChunks {size : Nat} (fits : size ≤ maxBytes)
    (takes : (saveChunks maxBytes size).Takes log result) :
    requested log = [] ∧ size + (written log).length ≤ maxBytes ∧
      (result = .ok () → ∃ chunks, log = savedBody chunks) := by
  induction remaining : maxBytes - size using Nat.strongRecOn generalizing size log with
  | ind left induction =>
      rw [saveChunks, Prog.takes_call] at takes
      obtain ⟨reply, rest, rfl, takes⟩ := takes
      cases reply with
      | error error =>
          obtain ⟨rfl, rfl⟩ := Prog.takes_done.mp takes
          exact ⟨rfl, fits, nofun⟩
      | ok next =>
          cases next with
          | none =>
              obtain ⟨rfl, rfl⟩ := Prog.takes_done.mp takes
              exact ⟨rfl, fits, fun _ => ⟨[], rfl⟩⟩
          | some chunk =>
              by_cases exceeds : maxBytes < size + chunk.val.length
              · simp only [if_pos exceeds] at takes
                obtain ⟨rfl, rfl⟩ := Prog.takes_done.mp takes
                exact ⟨rfl, fits, nofun⟩
              · simp only [if_neg exceeds] at takes
                rcases Prog.takes_bind.mp takes with ⟨error, rfl, wrote⟩ |
                  ⟨first, value, second, rfl, wrote, later⟩
                · obtain rfl := Prog.takes_perform.mp wrote
                  refine ⟨rfl, ?_, nofun⟩
                  simpa [written] using Nat.le_of_not_lt exceeds
                · obtain rfl := Prog.takes_perform.mp wrote
                  have smaller : maxBytes - (size + chunk.val.length) < left := by
                    have nonempty := List.length_pos_iff.mpr chunk.property
                    omega
                  obtain ⟨none, bounded, complete⟩ :=
                    induction _ smaller (Nat.le_of_not_lt exceeds) later rfl
                  refine ⟨none, ?_, ?_⟩
                  · have more : written (⟨.nextChunk, .ok (some chunk)⟩ ::
                        ([⟨.write chunk.val, .ok value⟩] ++ second)) =
                          chunk.val ++ written second := rfl
                    rw [more, List.length_append]
                    omega
                  · intro returned
                    obtain ⟨chunks, rfl⟩ := complete returned
                    exact ⟨chunk :: chunks, rfl⟩

/-- Chunks that fit can be saved. -/
theorem saveChunks_takes {size : Nat} (chunks : List Chunk)
    (fits : size + (chunks.flatMap Subtype.val).length ≤ maxBytes) :
    (saveChunks maxBytes size).Takes (savedBody chunks) (.ok ()) := by
  induction chunks generalizing size with
  | nil =>
      rw [saveChunks]
      exact Prog.takes_call.mpr ⟨_, _, rfl, .done _⟩
  | cons chunk chunks induction =>
      rw [List.flatMap_cons, List.length_append, ← Nat.add_assoc] at fits
      have shorter : ¬ maxBytes < size + chunk.val.length := by omega
      rw [saveChunks]
      refine Prog.takes_call.mpr ⟨_, _, rfl, ?_⟩
      simp only [if_neg shorter]
      exact Prog.takes_call.mpr ⟨_, _, rfl, induction fits⟩

/-- The file is closed however the chunks end. -/
theorem takes_closing
    (takes : ((saveChunks maxBytes 0).tryFinally (ask .closeDestination)).Takes log result) :
    requested log = [] ∧ (written log).length ≤ maxBytes ∧
      (result = .ok () → ∃ chunks, log = savedBody chunks ++ [⟨.closeDestination, .ok ()⟩]) := by
  obtain ⟨first, middle, second, ending, rfl, saves, closes, rfl⟩ :=
    Prog.takes_tryFinally.mp takes
  obtain rfl := Prog.takes_perform.mp closes
  obtain ⟨none, bounded, complete⟩ := takes_saveChunks (Nat.zero_le _) saves
  refine ⟨by rw [requested_append, none]; rfl, ?_, ?_⟩
  · rw [written_append]
    simpa [written] using bounded
  · intro returned
    cases ending with
    | error error => cases returned
    | ok value =>
        obtain ⟨chunks, rfl⟩ := complete returned
        exact ⟨chunks, rfl⟩

/-- The calls that save a response. -/
def saved (chunks : List Chunk) : DownloadLog :=
  ⟨.openDestination, .ok ()⟩ :: (savedBody chunks ++ [⟨.closeDestination, .ok ()⟩])

theorem written_response (url token : Text) (response : DownloadResponse)
    (chunks : List Chunk) :
    written (⟨.get url token, .ok response⟩ ::
      (saved chunks ++ [⟨.closeResponse, .ok ()⟩])) = chunks.flatMap Subtype.val := by
  have body := written_savedBody chunks
  rw [written] at body
  simp [written, saved, body]

/-- A response is taken for a redirect, or it is saved. -/
theorem takes_receive {response : DownloadResponse} {result : Except Exn (Option Text)}
    (takes : (receive library maxBytes current response).Takes log result) :
    requested log = [] ∧ (written log).length ≤ maxBytes ∧
      (∀ next, result = .ok (some next) → log = []) ∧
      (result = .ok none → response.isSuccess = true ∧ ∃ chunks, log = saved chunks) := by
  rw [receive] at takes
  by_cases redirects : response.isRedirect = true
  · rw [if_pos redirects] at takes
    have ends : ∃ outcome : Except Exn Text, log = [] ∧ result = outcome.map some := by
      split at takes
      · exact ⟨.error _, Prog.takes_done.mp takes⟩
      · exact ⟨.error _, Prog.takes_done.mp takes⟩
      · split at takes
        · exact ⟨.error _, Prog.takes_done.mp takes⟩
        · exact ⟨.ok _, Prog.takes_done.mp takes⟩
    obtain ⟨outcome, rfl, rfl⟩ := ends
    refine ⟨rfl, Nat.zero_le _, fun _ _ => rfl, ?_⟩
    cases outcome <;> nofun
  · rw [if_neg redirects] at takes
    by_cases succeeds : response.isSuccess = true
    · rw [if_pos succeeds] at takes
      rcases Prog.takes_bind.mp takes with ⟨error, rfl, opened⟩ |
        ⟨first, value, rest, rfl, opened, later⟩
      · obtain rfl := Prog.takes_perform.mp opened
        exact ⟨rfl, Nat.zero_le _, nofun, nofun⟩
      · obtain rfl := Prog.takes_perform.mp opened
        have ends : ∃ ending : Except Exn Unit,
            ((saveChunks maxBytes 0).tryFinally (ask .closeDestination)).Takes rest ending ∧
              result = ending.map fun _ => none := by
          rcases Prog.takes_bind.mp later with ⟨error, rfl, closes⟩ |
            ⟨first, ending, second, rfl, closes, returns⟩
          · exact ⟨.error error, closes, rfl⟩
          · obtain ⟨rfl, rfl⟩ := Prog.takes_done.mp returns
            exact ⟨.ok ending, by rwa [List.append_nil], rfl⟩
        obtain ⟨ending, closes, rfl⟩ := ends
        obtain ⟨none, bounded, complete⟩ := takes_closing closes
        refine ⟨none, bounded, ?_, ?_⟩
        · cases ending <;> nofun
        · intro returned
          cases ending with
          | error error => cases returned
          | ok value =>
              obtain ⟨chunks, rfl⟩ := complete rfl
              exact ⟨succeeds, chunks, rfl⟩
    · rw [if_neg succeeds] at takes
      obtain ⟨rfl, rfl⟩ := Prog.takes_done.mp takes
      exact ⟨rfl, Nat.zero_le _, nofun, nofun⟩

/-- A body that fits is saved. -/
theorem receive_takes {chunks : List Chunk}
    (saves : (saveChunks maxBytes 0).Takes (savedBody chunks) (.ok ())) :
    (receive library maxBytes current ⟨200, none⟩).Takes (saved chunks) (.ok none) := by
  refine Prog.takes_call.mpr ⟨_, _, rfl, ?_⟩
  refine Prog.takes_bind.mpr (.inr ⟨_, (), [], (List.append_nil _).symm, ?_, .done _⟩)
  exact Prog.takes_tryFinally.mpr ⟨_, _, _, .ok (), rfl, saves, Prog.takes_perform.mpr rfl,
    rfl⟩

/-- One pass sends the token at most once, to an address that was checked before. -/
theorem takes_attempt {result : Except Exn (Option Text)}
    (takes : (attempt library token maxBytes current).Takes log result) :
    (requested log = [] ∨ requested log = [(current, token)] ∧
        validateSlackFileUrl library current = .ok ()) ∧
      (written log).length ≤ maxBytes ∧
      (∀ next, result = .ok (some next) → written log = []) ∧
      (result = .ok none → ∃ response chunks, response.isSuccess = true ∧
        log = ⟨.get current token, .ok response⟩ ::
          (saved chunks ++ [⟨.closeResponse, .ok ()⟩])) := by
  rw [attempt] at takes
  cases checked : validateSlackFileUrl library current with
  | error error =>
      rw [checked] at takes
      obtain ⟨rfl, rfl⟩ := Prog.takes_done.mp takes
      exact ⟨.inl rfl, Nat.zero_le _, nofun, nofun⟩
  | ok value =>
      rw [checked] at takes
      rcases Prog.takes_bind.mp takes with ⟨error, rfl, asked⟩ |
        ⟨first, response, rest, rfl, asked, later⟩
      · obtain rfl := Prog.takes_perform.mp asked
        exact ⟨.inr ⟨rfl, rfl⟩, Nat.zero_le _, nofun, nofun⟩
      · obtain rfl := Prog.takes_perform.mp asked
        obtain ⟨front, middle, back, ending, rfl, receives, closes, rfl⟩ :=
          Prog.takes_tryFinally.mp later
        obtain rfl := Prog.takes_perform.mp closes
        obtain ⟨none, bounded, redirected, complete⟩ := takes_receive receives
        have alone : requested ([⟨.get current token, .ok response⟩] ++
            (front ++ [⟨.closeResponse, ending⟩])) = [(current, token)] := by
          rw [requested_append, requested_append, none]
          rfl
        have same : written ([⟨.get current token, .ok response⟩] ++
            (front ++ [⟨.closeResponse, ending⟩])) = written front := by
          rw [written_append, written_append]
          simp [written]
        refine ⟨.inr ⟨alone, rfl⟩, by rw [same]; exact bounded, ?_, ?_⟩
        · intro next returned
          cases ending with
          | error error => cases returned
          | ok value =>
              rw [same, redirected next returned]
              rfl
        · intro returned
          cases ending with
          | error error => cases returned
          | ok value =>
              obtain ⟨succeeds, chunks, rfl⟩ := complete returned
              exact ⟨response, chunks, succeeds, rfl⟩

/-- The last response is a success whose body is written to its end, and nothing was
written before. -/
def Complete (token : Text) (log : DownloadLog) : Prop :=
  ∃ front url response chunks, response.isSuccess = true ∧
    log = front ++ ⟨.get url token, .ok response⟩ ::
      (saved chunks ++ [⟨.closeResponse, .ok ()⟩]) ∧
    written log = chunks.flatMap Subtype.val

/-- What a pass asks for, counted and checked. -/
theorem of_alone (asked : requested log = [] ∨ requested log = [(current, token)] ∧
      validateSlackFileUrl library current = .ok ()) :
    (∀ request ∈ requested log, request.2 = token ∧
        validateSlackFileUrl library request.1 = .ok ()) ∧ (requested log).length ≤ 1 := by
  rcases asked with nothing | ⟨alone, checked⟩
  · rw [nothing]
    exact ⟨nofun, Nat.zero_le 1⟩
  · rw [alone]
    refine ⟨?_, Nat.le_refl 1⟩
    intro request mem
    obtain rfl := List.mem_singleton.mp mem
    exact ⟨rfl, checked⟩

/-- Each pass adds at most one request. -/
theorem takes_downloadFrom {passes : Nat}
    (takes : (downloadFrom library token maxBytes passes current).Takes log result) :
    (∀ request ∈ requested log, request.2 = token ∧
        validateSlackFileUrl library request.1 = .ok ()) ∧
      (requested log).length ≤ passes ∧ (written log).length ≤ maxBytes ∧
      (result = .ok () → Complete token log) := by
  induction passes generalizing current log with
  | zero =>
      obtain ⟨rfl, rfl⟩ := Prog.takes_done.mp takes
      exact ⟨nofun, Nat.le_refl _, Nat.zero_le _, nofun⟩
  | succ passes induction =>
      rw [downloadFrom] at takes
      rcases Prog.takes_bind.mp takes with ⟨error, rfl, attempted⟩ |
        ⟨first, outcome, rest, rfl, attempted, later⟩
      · obtain ⟨asked, bounded, _, _⟩ := takes_attempt attempted
        obtain ⟨checked, few⟩ := of_alone asked
        exact ⟨checked, few.trans (Nat.le_add_left 1 passes), bounded, nofun⟩
      · obtain ⟨asked, bounded, redirected, complete⟩ := takes_attempt attempted
        obtain ⟨checked, few⟩ := of_alone asked
        cases outcome with
        | none =>
            obtain ⟨rfl, rfl⟩ := Prog.takes_done.mp later
            rw [List.append_nil]
            refine ⟨checked, few.trans (Nat.le_add_left 1 passes), bounded, fun _ => ?_⟩
            obtain ⟨response, chunks, succeeds, logged⟩ := complete rfl
            exact ⟨[], current, response, chunks, succeeds, logged,
              by rw [logged]; exact written_response current token response chunks⟩
        | some next =>
            obtain ⟨later_checked, later_few, fits, finished⟩ := induction later
            have nothing : written first = [] := redirected next rfl
            refine ⟨?_, ?_, ?_, ?_⟩
            · intro request mem
              rw [requested_append] at mem
              exact (List.mem_append.mp mem).elim (checked request) (later_checked request)
            · rw [requested_append, List.length_append]
              omega
            · rwa [written_append, nothing, List.nil_append]
            · intro returned
              obtain ⟨front, url, response, chunks, succeeds, logged, body⟩ :=
                finished returned
              refine ⟨first ++ front, url, response, chunks, succeeds, ?_, ?_⟩
              · rw [logged, List.append_assoc]
              · rw [written_append, nothing, body, List.nil_append]

/-- An approved address is one with the scheme and the host of Slack's files. -/
theorem approved_of_validate {url : Text}
    (checked : validateSlackFileUrl library url = .ok ()) :
    ∃ parsed, library.urlparse url = .ok parsed ∧ parsed.scheme = "https".toList ∧
      library.casefold (parsed.hostname.getD []) ∈ allowedSlackFileHosts := by
  rw [validateSlackFileUrl] at checked
  cases parses : library.urlparse url with
  | error error =>
      rw [parses] at checked
      cases checked
  | ok parsed =>
      rw [parses] at checked
      by_cases refused : parsed.scheme ≠ "https".toList ∨
          library.casefold (parsed.hostname.getD []) ∉ allowedSlackFileHosts
      · simp only [if_pos refused] at checked
        cases checked
      · push Not at refused
        exact ⟨parsed, rfl, refused⟩

end Traces

/-- The token is sent to Slack's file hosts only, at most four times, no more bytes than
allowed are written, and the download returns once a body was written to its end: whatever
the servers answer. `connects` is the scheme and the host that the client uses for an
address. -/
theorem token_stays_on_slack_hosts (library : UrlLibrary) (connects : Text → Text × Text)
    (agree : ∀ url parsed, library.urlparse url = .ok parsed →
      connects url = (parsed.scheme, library.casefold (parsed.hostname.getD [])))
    (token : Text) (maxBytes : Nat) (url : Text) (log : DownloadLog)
    (result : Except Exn Unit)
    (takes : (download library token maxBytes url).Takes log result) :
    (∀ request ∈ requested log, request.2 = token ∧
        (connects request.1).1 = "https".toList ∧
        (connects request.1).2 ∈ allowedSlackFileHosts) ∧
      (requested log).length ≤ 4 ∧ (written log).length ≤ maxBytes ∧
      (result = .ok () → Complete token log) := by
  obtain ⟨checked, few, fits, complete⟩ := takes_downloadFrom takes
  refine ⟨?_, few, fits, complete⟩
  intro request mem
  obtain ⟨same, approved⟩ := checked request mem
  obtain ⟨parsed, parses, scheme, host⟩ := approved_of_validate approved
  rw [agree request.1 parsed parses]
  exact ⟨same, scheme, host⟩

/-! ## A redirected download -/

section Sample

/-- Addresses with a scheme, a host and a path. -/
def plainUrls : UrlLibrary where
  urlparse url := .ok ⟨url.takeWhile (· != ':'),
    some (((url.dropWhile (· != ':')).drop 3).takeWhile (· != '/'))⟩
  urljoin _ location := .ok location
  casefold := List.map Char.toLower
  statusMessage _ _ := ""

/-- The scheme and the host of such an address. -/
def plainConnects (url : Text) : Text × Text :=
  (url.takeWhile (· != ':'),
    (((url.dropWhile (· != ':')).drop 3).takeWhile (· != '/')).map Char.toLower)

def sampleUrl : Text := "https://files.slack.com/a".toList

def sampleLocation : Text := "https://Slack-Files.com/b".toList

def sampleToken : Text := "xoxb".toList

def sampleChunks : List Chunk := [⟨[1, 2], by decide⟩, ⟨[3], by decide⟩]

/-- A redirect, then a body in two chunks. -/
def sampleLog : DownloadLog :=
  ⟨.get sampleUrl sampleToken, .ok ⟨302, some sampleLocation⟩⟩ ::
    ⟨.closeResponse, .ok ()⟩ ::
    ⟨.get sampleLocation sampleToken, .ok ⟨200, none⟩⟩ ::
    (saved sampleChunks ++ [⟨.closeResponse, .ok ()⟩])

theorem download_sample :
    (download plainUrls sampleToken 3 sampleUrl).Takes sampleLog (.ok ()) := by
  have first : validateSlackFileUrl plainUrls sampleUrl = .ok () := by rfl
  have second : validateSlackFileUrl plainUrls sampleLocation = .ok () := by rfl
  have saves : (saveChunks 3 0).Takes (savedBody sampleChunks) (.ok ()) :=
    saveChunks_takes sampleChunks (by decide)
  rw [download, downloadFrom, attempt, first]
  refine Prog.takes_call.mpr ⟨_, _, rfl, ?_⟩
  refine Prog.takes_call.mpr ⟨_, _, rfl, ?_⟩
  change (downloadFrom plainUrls sampleToken 3 3 sampleLocation).Takes _ _
  rw [downloadFrom, attempt, second]
  refine Prog.takes_bind.mpr (.inr ⟨_, none, [], (List.append_nil _).symm, ?_, .done _⟩)
  refine Prog.takes_call.mpr ⟨_, _, rfl, ?_⟩
  exact Prog.takes_tryFinally.mpr ⟨_, _, _, .ok (), rfl, receive_takes saves,
    Prog.takes_perform.mpr rfl, rfl⟩

/-- The token goes to two of Slack's hosts, and the three bytes are written. -/
theorem token_stays_on_slack_hosts_redirected :
    (∀ request ∈ requested sampleLog, request.2 = sampleToken ∧
        (plainConnects request.1).1 = "https".toList ∧
        (plainConnects request.1).2 ∈ allowedSlackFileHosts) ∧
      (requested sampleLog).length = 2 ∧ written sampleLog = [1, 2, 3] ∧
      Complete sampleToken sampleLog := by
  have agree : ∀ url parsed, plainUrls.urlparse url = .ok parsed →
      plainConnects url = (parsed.scheme, plainUrls.casefold (parsed.hostname.getD [])) := by
    intro url parsed parses
    cases parses
    rfl
  obtain ⟨hosts, _, _, complete⟩ := token_stays_on_slack_hosts plainUrls plainConnects agree
    sampleToken 3 sampleUrl sampleLog (.ok ()) download_sample
  exact ⟨hosts, rfl, rfl, complete rfl⟩

end Sample

end SlackDownloads

end ContractMate
