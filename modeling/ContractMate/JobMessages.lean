import ContractMate.RateLimitDecisions

/-!
# Job messages

The dictionaries in which review and index jobs travel through the broker.  A
worker reads a job as it was sent, but for optional texts of a review job that were
empty: it takes them as missing.
-/

namespace ContractMate

/-! ## Reading a dictionary -/

section Reading

-- `str` of a value that is no text, and `int` of a text
variable (strOf : Json → String) (intOfText : String → Option Int)

/-- `message.get(key)`. -/
def Json.field? (message : Json) (key : String) : Option Json :=
  match message with
  | .object fields => fields.lookup key
  | _ => none

/-- The truth value of a value. -/
def Json.truthy : Json → Bool
  | null => false
  | bool value => value
  | int value => value ≠ 0
  | float (.finite value) => value ≠ 0
  | float _ => true
  | text value => value ≠ ""
  | list items => !items.isEmpty
  | object fields => !fields.isEmpty

/-- `str(value)`. -/
def Json.str : Json → String
  | text value => value
  | other => strOf other

/-- `str(message[key])`. -/
def requiredText (message : Json) (key : String) : Except Exn String :=
  match message.field? key with
  | some value => .ok (value.str strOf)
  | none => .error ⟨.otherError, "'" ++ key ++ "'"⟩

/-- `str(message[key]) if message.get(key) else None`. -/
def optionalText (message : Json) (key : String) : Option String :=
  ((message.field? key).filter Json.truthy).map (Json.str strOf)

/-- `str(message.get(key, default))`. -/
def textOr (message : Json) (key default : String) : String :=
  ((message.field? key).map (Json.str strOf)).getD default

/-- `int(message.get(key, default))`. -/
def numberOr (message : Json) (key : String) (default : Int) : Except Exn Int :=
  match message.field? key with
  | some value => (value.toInt intOfText).mapError ReplyError.raised
  | none => .ok default

/-- `bool(message.get(key, False))`. -/
def flag (message : Json) (key : String) : Bool :=
  ((message.field? key).map Json.truthy).getD false

end Reading

/-- The entries of a dictionary whose values are not missing. -/
def presentTexts (entries : List (String × Option String)) :
    List (String × Json) :=
  entries.filterMap fun entry => entry.2.map fun value => (entry.1, .text value)

/-- An entry is found under its own key. -/
theorem lookup_presentTexts {entries : List (String × Option String)}
    (distinct : (entries.map Prod.fst).Nodup) {key : String}
    {value : Option String} (member : (key, value) ∈ entries) :
    (presentTexts entries).lookup key = value.map Json.text := by
  induction entries with
  | nil => simp at member
  | cons entry rest induction =>
      obtain ⟨first, text⟩ := entry
      rw [List.map_cons, List.nodup_cons] at distinct
      rcases List.mem_cons.mp member with same | later
      · cases same
        cases value with
        | some value => simp [presentTexts]
        | none =>
            have absent : (presentTexts rest).lookup key = none := by
              rw [List.lookup_eq_none_iff]
              rintro ⟨other, json⟩ found
              obtain ⟨⟨name, held⟩, inside, kept⟩ := List.mem_filterMap.mp found
              obtain ⟨_, _, same⟩ := Option.map_eq_some_iff.mp kept
              cases same
              have different : key ≠ name := by
                rintro rfl
                exact distinct.1 (List.mem_map.mpr ⟨_, inside, rfl⟩)
              simpa using different
            simpa [presentTexts] using absent
      · have different : key ≠ first := by
          rintro rfl
          exact distinct.1 (List.mem_map.mpr ⟨_, later, rfl⟩)
        have found := induction distinct.2 later
        cases text with
        | none => simpa [presentTexts] using found
        | some text =>
            have skipped : (key == first) = false := by simpa using different
            simp only [presentTexts, List.filterMap_cons, Option.map_some,
              List.lookup_cons, skipped]
            exact found

/-! ## Review jobs -/

/-- `ContractReviewJob` with its identifiers as the texts that travel. -/
structure QueuedReviewJob where
  jobId : String
  contractId : String
  contractVersionId : String
  workspaceId : String
  emailThreadId : String
  requestedBy : String
  version : Int := 2
  sourceChannel : String := "email"
  sourceThreadKey : Option String := none
  slackInstallationId : Option String := none
  slackChannelId : Option String := none
  slackThreadTs : Option String := none
  sourceSubmissionKey : Option String := none
  recipientName : Option String := none
  responseAddress : Option String := none
  originalSubject : Option String := none
  inReplyTo : Option String := none
  references : Option String := none
  sendReviewEmail : Bool := false
  processingRunId : Option String := none
  attempt : Int := 1
deriving DecidableEq, Repr

namespace QueuedReviewJob

/-- The entries that are left out when they are missing. -/
def optionalEntries (job : QueuedReviewJob) : List (String × Option String) :=
  [("recipient_name", job.recipientName),
    ("response_address", job.responseAddress),
    ("original_subject", job.originalSubject),
    ("in_reply_to", job.inReplyTo),
    ("references", job.references),
    ("processing_run_id", job.processingRunId),
    ("source_thread_key", job.sourceThreadKey),
    ("slack_installation_id", job.slackInstallationId),
    ("slack_channel_id", job.slackChannelId),
    ("slack_thread_ts", job.slackThreadTs),
    ("source_submission_key", job.sourceSubmissionKey)]

def requiredEntries (job : QueuedReviewJob) : List (String × Json) :=
  [("job_id", .text job.jobId),
    ("contract_id", .text job.contractId),
    ("contract_version_id", .text job.contractVersionId),
    ("workspace_id", .text job.workspaceId),
    ("email_thread_id", .text job.emailThreadId),
    ("requested_by", .text job.requestedBy),
    ("version", .int job.version),
    ("source_channel", .text job.sourceChannel),
    ("send_review_email", .bool job.sendReviewEmail),
    ("attempt", .int job.attempt)]

/-- `to_message`. -/
def toMessage (job : QueuedReviewJob) : Json :=
  .object (job.requiredEntries ++ presentTexts job.optionalEntries)

/-- `from_message`. -/
def fromMessage (strOf : Json → String) (intOfText : String → Option Int)
    (message : Json) : Except Exn QueuedReviewJob := do
  let jobId ← requiredText strOf message "job_id"
  let contractId ← requiredText strOf message "contract_id"
  let contractVersionId ← requiredText strOf message "contract_version_id"
  let workspaceId ← requiredText strOf message "workspace_id"
  let emailThreadId ← requiredText strOf message "email_thread_id"
  let requestedBy ← requiredText strOf message "requested_by"
  let version ← numberOr intOfText message "version" 1
  let attempt ← numberOr intOfText message "attempt" 1
  pure {
    jobId, contractId, contractVersionId, workspaceId, emailThreadId, requestedBy
    version
    sourceChannel := textOr strOf message "source_channel" "email"
    sourceThreadKey := optionalText strOf message "source_thread_key"
    slackInstallationId := optionalText strOf message "slack_installation_id"
    slackChannelId := optionalText strOf message "slack_channel_id"
    slackThreadTs := optionalText strOf message "slack_thread_ts"
    sourceSubmissionKey := optionalText strOf message "source_submission_key"
    recipientName := optionalText strOf message "recipient_name"
    responseAddress := optionalText strOf message "response_address"
    originalSubject := optionalText strOf message "original_subject"
    inReplyTo := optionalText strOf message "in_reply_to"
    references := optionalText strOf message "references"
    sendReviewEmail := flag message "send_review_email"
    processingRunId := optionalText strOf message "processing_run_id"
    attempt }

/-- The job with its empty optional texts missing. -/
def read (job : QueuedReviewJob) : QueuedReviewJob :=
  { job with
    sourceThreadKey := truthy job.sourceThreadKey
    slackInstallationId := truthy job.slackInstallationId
    slackChannelId := truthy job.slackChannelId
    slackThreadTs := truthy job.slackThreadTs
    sourceSubmissionKey := truthy job.sourceSubmissionKey
    recipientName := truthy job.recipientName
    responseAddress := truthy job.responseAddress
    originalSubject := truthy job.originalSubject
    inReplyTo := truthy job.inReplyTo
    references := truthy job.references
    processingRunId := truthy job.processingRunId }

variable {strOf : Json → String} {intOfText : String → Option Int}
  {job : QueuedReviewJob}

theorem field?_toMessage_optional {key : String} {value : Option String}
    (absent : job.requiredEntries.lookup key = none)
    (member : (key, value) ∈ job.optionalEntries) :
    job.toMessage.field? key = value.map Json.text := by
  have distinct : (job.optionalEntries.map Prod.fst).Nodup := by
    simp [optionalEntries]
  rw [toMessage, Json.field?, List.lookup_append, absent, Option.none_or]
  exact lookup_presentTexts distinct member

/-- An optional text is read back unless it was empty. -/
theorem optionalText_toMessage {key : String} {value : Option String}
    (absent : job.requiredEntries.lookup key = none)
    (member : (key, value) ∈ job.optionalEntries) :
    optionalText strOf job.toMessage key = truthy value := by
  rw [optionalText, field?_toMessage_optional absent member]
  cases value with
  | none => rfl
  | some text =>
      by_cases empty : text = "" <;>
        simp [ContractMate.truthy, Json.truthy, Json.str, Option.filter, empty]

theorem field?_toMessage_required {key : String} {value : Json}
    (found : job.requiredEntries.lookup key = some value) :
    job.toMessage.field? key = some value := by
  rw [toMessage, Json.field?, List.lookup_append, found, Option.some_or]

/-- What a worker reads of a job that was sent. -/
theorem fromMessage_toMessage (job : QueuedReviewJob) :
    fromMessage strOf intOfText job.toMessage = .ok job.read := by
  have texts (key : String) (value : String)
      (found : job.requiredEntries.lookup key = some (.text value)) :
      requiredText strOf job.toMessage key = .ok value := by
    rw [requiredText, field?_toMessage_required found]
    rfl
  have numbers (key : String) (value default : Int)
      (found : job.requiredEntries.lookup key = some (.int value)) :
      numberOr intOfText job.toMessage key default = .ok value := by
    rw [numberOr, field?_toMessage_required found]
    rfl
  have channel : textOr strOf job.toMessage "source_channel" "email" =
      job.sourceChannel := by
    rw [textOr, field?_toMessage_required rfl]
    rfl
  have sends : flag job.toMessage "send_review_email" = job.sendReviewEmail := by
    rw [flag, field?_toMessage_required rfl]
    rfl
  have optional (key : String) (value : Option String)
      (absent : job.requiredEntries.lookup key = none)
      (member : (key, value) ∈ job.optionalEntries) :
      optionalText strOf job.toMessage key = ContractMate.truthy value :=
    optionalText_toMessage absent member
  simp only [fromMessage, texts "job_id" _ rfl, texts "contract_id" _ rfl,
    texts "contract_version_id" _ rfl, texts "workspace_id" _ rfl,
    texts "email_thread_id" _ rfl, texts "requested_by" _ rfl,
    numbers "version" _ _ rfl, numbers "attempt" _ _ rfl, channel, sends,
    optional "source_thread_key" job.sourceThreadKey rfl (by simp [optionalEntries]),
    optional "slack_installation_id" job.slackInstallationId rfl
      (by simp [optionalEntries]),
    optional "slack_channel_id" job.slackChannelId rfl (by simp [optionalEntries]),
    optional "slack_thread_ts" job.slackThreadTs rfl (by simp [optionalEntries]),
    optional "source_submission_key" job.sourceSubmissionKey rfl
      (by simp [optionalEntries]),
    optional "recipient_name" job.recipientName rfl (by simp [optionalEntries]),
    optional "response_address" job.responseAddress rfl (by simp [optionalEntries]),
    optional "original_subject" job.originalSubject rfl (by simp [optionalEntries]),
    optional "in_reply_to" job.inReplyTo rfl (by simp [optionalEntries]),
    optional "references" job.references rfl (by simp [optionalEntries]),
    optional "processing_run_id" job.processingRunId rfl
      (by simp [optionalEntries])]
  rfl

/-- Reading a job again changes nothing. -/
theorem read_read (job : QueuedReviewJob) : job.read.read = job.read := by
  have again (value : Option String) :
      ContractMate.truthy (ContractMate.truthy value) = ContractMate.truthy value := by
    simp [ContractMate.truthy, Option.filter_filter]
  simp only [read, again]

end QueuedReviewJob

/-! ## Index jobs -/

/-- `KnowledgeIndexJob`. -/
structure KnowledgeIndexJob where
  jobId : String
  contractId : String
  contractVersionId : String
  workspaceId : String
  attempt : Int := 1
  outboxId : Option String := none
deriving DecidableEq, Repr

namespace KnowledgeIndexJob

/-- `to_message`. -/
def toMessage (job : KnowledgeIndexJob) : Json :=
  .object
    [("job_id", .text job.jobId),
      ("contract_id", .text job.contractId),
      ("contract_version_id", .text job.contractVersionId),
      ("workspace_id", .text job.workspaceId),
      ("attempt", .int job.attempt),
      ("outbox_id", (job.outboxId.map Json.text).getD .null)]

/-- `str(message[key]) if message.get(key) is not None else None`. -/
def textUnlessNull (strOf : Json → String) (message : Json) (key : String) :
    Option String :=
  match message.field? key with
  | none | some .null => none
  | some value => some (value.str strOf)

/-- `from_message`. -/
def fromMessage (strOf : Json → String) (intOfText : String → Option Int)
    (message : Json) : Except Exn KnowledgeIndexJob := do
  let jobId ← requiredText strOf message "job_id"
  let contractId ← requiredText strOf message "contract_id"
  let contractVersionId ← requiredText strOf message "contract_version_id"
  let workspaceId ← requiredText strOf message "workspace_id"
  let attempt ← numberOr intOfText message "attempt" 1
  pure {
    jobId, contractId, contractVersionId, workspaceId, attempt
    outboxId := textUnlessNull strOf message "outbox_id" }

/-- An index job is read as it was sent. -/
theorem fromMessage_toMessage {strOf : Json → String}
    {intOfText : String → Option Int} (job : KnowledgeIndexJob) :
    fromMessage strOf intOfText job.toMessage = .ok job := by
  obtain ⟨jobId, contractId, contractVersionId, workspaceId, attempt, outboxId⟩ :=
    job
  cases outboxId <;> rfl

end KnowledgeIndexJob

end ContractMate
