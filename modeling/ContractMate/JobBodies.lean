import ContractMate.JsonRoundTrip
import ContractMate.QueueDeliveries

/-!
# Job bodies

Jobs travel as the bytes of their JSON.  A worker that decodes them gets the job as it
reads it: an index job as it was sent, a review job without its empty optional texts.
Copies that a delivery republishes are read the same way.
-/

namespace ContractMate

open JsonText (Value)

/-! ## The JSON of a dictionary -/

/-- A number of `json`, an `int` or a `float`. -/
abbrev JsonNumber := Int ⊕ JsonFloat

/-- What `json.dumps` is given. -/
def Json.toValue : Json → Value JsonNumber
  | .null => .null
  | .bool value => .bool value
  | .int value => .number (.inl value)
  | .float value => .number (.inr value)
  | .text value => .text value
  | .list items => .list (itemValues items)
  | .object fields => .object (fieldValues fields)
where
  itemValues : List Json → List (Value JsonNumber)
    | [] => []
    | item :: items => item.toValue :: itemValues items
  fieldValues : List (String × Json) → List (String × Value JsonNumber)
    | [] => []
    | (key, value) :: fields => (key, value.toValue) :: fieldValues fields

/-- What `json.loads` makes of it. -/
def Json.ofValue : Value JsonNumber → Json
  | .null => .null
  | .bool value => .bool value
  | .number (.inl value) => .int value
  | .number (.inr value) => .float value
  | .text value => .text value
  | .list items => .list (ofItems items)
  | .object fields => .object (ofFields fields)
where
  ofItems : List (Value JsonNumber) → List Json
    | [] => []
    | item :: items => Json.ofValue item :: ofItems items
  ofFields : List (String × Value JsonNumber) → List (String × Json)
    | [] => []
    | (key, value) :: fields => (key, Json.ofValue value) :: ofFields fields

/-- The default separators of `json.dumps`. -/
def defaultSeparators : JsonText.Spacing where
  afterItem := [' ']
  afterKey := [' ']
  item_blank := by simp [JsonText.isBlank]
  key_blank := by simp [JsonText.isBlank]

section Codec

-- `float.__repr__`, and what `json.loads` makes of a token that is no `int`
variable (floatText : JsonFloat → List Char) (floatOf : List Char → Option JsonFloat)

def numberText : JsonNumber → List Char
  | .inl value => JsonText.writeInt value
  | .inr value => floatText value

def numberOf (token : List Char) : Option JsonNumber :=
  match JsonText.readInt token with
  | some value => some (.inl value)
  | none => (floatOf token).map .inr

/-- `json.dumps(message).encode("utf-8")`. -/
def bodyOf (message : Json) : ByteArray :=
  (String.ofList (JsonText.write defaultSeparators (numberText floatText)
    message.toValue)).toByteArray

/-- `json.loads(body.decode("utf-8"))`. -/
def decodeBody (body : ByteArray) : Except Exn Json :=
  match body.utf8Decode? with
  | none => .error (Exn.valueError "UnicodeDecodeError")
  | some text =>
      match JsonText.read (numberOf floatOf) text.toList with
      | none => .error (Exn.valueError "JSONDecodeError")
      | some value => .ok (Json.ofValue value)

end Codec

/-! ## Flat dictionaries -/

/-- A value that is no float and holds no other values. -/
def Json.Flat : Json → Prop
  | .null | .bool _ | .int _ | .text _ => True
  | .float _ | .list _ | .object _ => False

section Flat

variable {floatText : JsonFloat → List Char} {floatOf : List Char → Option JsonFloat}
  {fields : List (String × Json)}

theorem keys_fieldValues (fields : List (String × Json)) :
    (Json.toValue.fieldValues fields).map Prod.fst = fields.map Prod.fst := by
  induction fields with
  | nil => rfl
  | cons field fields induction =>
      simp [Json.toValue.fieldValues, induction]

theorem sound_of_flat {value : Json} (flat : value.Flat) :
    value.toValue.Sound (numberText floatText) := by
  cases value with
  | int value => exact JsonText.isToken_writeInt value
  | null | bool value | text value => trivial
  | float value | list items | object fields => exact flat.elim

theorem readBack_of_flat (floatText : JsonFloat → List Char)
    (floatOf : List Char → Option JsonFloat) {value : Json} (flat : value.Flat) :
    value.toValue.convert
        (JsonText.readBack (numberText floatText) (numberOf floatOf)) =
      some value.toValue ∧ Json.ofValue value.toValue = value := by
  cases value with
  | int value =>
      have read : JsonText.readBack (numberText floatText) (numberOf floatOf)
          (.inl value) = some (.inl value) := by
        rw [JsonText.readBack, numberText, numberOf, JsonText.readInt_writeInt]
      refine ⟨?_, rfl⟩
      rw [Json.toValue, Value.convert, read]
      rfl
  | null | bool value | text value => exact ⟨rfl, rfl⟩
  | float value | list items | object fields => exact flat.elim

theorem sound_fieldValues (flat : ∀ field ∈ fields, field.2.Flat) :
    Value.Sound.fieldsSound (numberText floatText) (Json.toValue.fieldValues fields) := by
  induction fields with
  | nil => trivial
  | cons field fields induction =>
      exact ⟨sound_of_flat (flat field (.head _)),
        induction fun field member => flat field (.tail _ member)⟩

theorem readBack_fieldValues (floatText : JsonFloat → List Char)
    (floatOf : List Char → Option JsonFloat) (flat : ∀ field ∈ fields, field.2.Flat) :
    Value.convert.convertFields
        (JsonText.readBack (numberText floatText) (numberOf floatOf))
        (Json.toValue.fieldValues fields) = some (Json.toValue.fieldValues fields) ∧
      Json.ofValue.ofFields (Json.toValue.fieldValues fields) = fields := by
  induction fields with
  | nil => exact ⟨rfl, rfl⟩
  | cons field fields induction =>
      obtain ⟨read, back⟩ := readBack_of_flat floatText floatOf (flat field (.head _))
      obtain ⟨others, rest⟩ := induction fun field member => flat field (.tail _ member)
      simp only [Json.toValue.fieldValues, Value.convert.convertFields, read, others,
        Json.ofValue.ofFields, back, rest, Option.bind_eq_bind, Option.bind_some,
        and_self]

/-- A flat dictionary is decoded as it was sent. -/
theorem decodeBody_bodyOf (distinct : (fields.map Prod.fst).Nodup)
    (flat : ∀ field ∈ fields, field.2.Flat) :
    decodeBody floatOf (bodyOf floatText (.object fields)) = .ok (.object fields) := by
  have sound : (Json.toValue (.object fields)).Sound (numberText floatText) :=
    ⟨by rw [keys_fieldValues]; exact distinct, sound_fieldValues flat⟩
  obtain ⟨read, back⟩ := readBack_fieldValues floatText floatOf flat
  have text : JsonText.read (numberOf floatOf)
      (JsonText.write defaultSeparators (numberText floatText)
        (Json.toValue (.object fields))) = some (Json.toValue (.object fields)) := by
    rw [JsonText.read_write sound, Json.toValue, Value.convert, read]
    rfl
  rw [decodeBody, bodyOf, String.toByteArray_ofList, List.utf8Decode?_utf8Encode]
  simp only [text]
  rw [Json.toValue, Json.ofValue, back]

end Flat

/-! ## Jobs -/

/-- The values that a job's dictionary holds. -/
theorem flat_presentTexts {entries : List (String × Option String)} :
    ∀ field ∈ presentTexts entries, field.2.Flat := by
  intro field member
  obtain ⟨entry, _, kept⟩ := List.mem_filterMap.mp member
  obtain ⟨text, _, rfl⟩ := Option.map_eq_some_iff.mp kept
  trivial

theorem keys_presentTexts (entries : List (String × Option String)) :
    ((presentTexts entries).map Prod.fst).Sublist (entries.map Prod.fst) := by
  induction entries with
  | nil => exact .slnil
  | cons entry entries induction =>
      obtain ⟨key, _ | text⟩ := entry
      · exact induction.cons _
      · exact induction.cons_cons _

namespace QueuedReviewJob

variable (job : QueuedReviewJob)

theorem keys_nodup :
    ((job.requiredEntries ++ presentTexts job.optionalEntries).map Prod.fst).Nodup := by
  have distinct : ((job.requiredEntries.map Prod.fst) ++
      (job.optionalEntries.map Prod.fst)).Nodup := by
    simp [requiredEntries, optionalEntries]
  rw [List.map_append]
  exact ((List.Sublist.refl _).append (keys_presentTexts _)).nodup distinct

theorem flat_entries :
    ∀ field ∈ job.requiredEntries ++ presentTexts job.optionalEntries, field.2.Flat := by
  intro field member
  rcases List.mem_append.mp member with required | present
  · simp only [requiredEntries, List.mem_cons, List.not_mem_nil, or_false] at required
    rcases required with rfl | rfl | rfl | rfl | rfl | rfl | rfl | rfl | rfl | rfl <;>
      trivial
  · exact flat_presentTexts field present

/-- No optional text is empty. -/
def NoEmptyText : Prop :=
  ∀ entry ∈ job.optionalEntries, entry.2 ≠ some ""

/-- A worker reads exactly what was sent if no optional text is empty, and only then. -/
theorem read_eq_self_iff : job.read = job ↔ job.NoEmptyText := by
  have kept (value : Option String) : truthy value = value ↔ value ≠ some "" := by
    cases value <;> simp [truthy, Option.filter]
  obtain ⟨jobId, contractId, contractVersionId, workspaceId, emailThreadId, requestedBy,
    version, sourceChannel, sourceThreadKey, slackInstallationId, slackChannelId,
    slackThreadTs, sourceSubmissionKey, recipientName, responseAddress, originalSubject,
    inReplyTo, references, sendReviewEmail, processingRunId, attempt⟩ := job
  simp only [read, NoEmptyText, optionalEntries, QueuedReviewJob.mk.injEq, kept,
    List.forall_mem_cons, List.not_mem_nil, true_and, and_true]
  tauto

end QueuedReviewJob

/-! ## Bodies -/

section Bodies

variable (strOf : Json → String) (intOfText : String → Option Int)
  (floatText : JsonFloat → List Char) (floatOf : List Char → Option JsonFloat)

/-- The job in a body. -/
def JobFamily.ofBody (family : JobFamily) (body : ByteArray) : Except Exn family.Job :=
  decodeBody floatOf body >>= family.fromMessage

/-- The job that a method of a delivery republishes. -/
def RabbitMQDelivery.copy {family : JobFamily} (delivery : RabbitMQDelivery family) :
    DeliveryMethod → family.Job
  | .retry =>
      if family.maxAttempts ≤ family.attempt delivery.job then delivery.job
      else family.withAttempt delivery.job (family.attempt delivery.job + 1)
  | _ => delivery.job

/-- Bodies of the jobs of a family are decoded, and read as the family reads jobs. -/
def JobFamily.Decodes (family : JobFamily) : Prop :=
  ∀ job : family.Job,
    family.ofBody floatOf (bodyOf floatText (family.toMessage job)) = .ok (family.read job)

/-- Whatever a method publishes is decoded as its copy of the job. -/
def RabbitMQDelivery.Republishes {family : JobFamily}
    (delivery : RabbitMQDelivery family) (method : DeliveryMethod) : Prop :=
  (delivery.run method).Calls fun call =>
    ∀ route message, call = .basicPublish route message →
      family.ofBody floatOf (bodyOf floatText message) =
        .ok (family.read (delivery.copy method))

variable {strOf intOfText floatText floatOf}

theorem decodes_reviewJobs (topology : QueueTopology) :
    (reviewJobs strOf intOfText topology).Decodes floatText floatOf := by
  intro job
  have body : decodeBody floatOf (bodyOf floatText job.toMessage) = .ok job.toMessage :=
    decodeBody_bodyOf job.keys_nodup job.flat_entries
  rw [JobFamily.ofBody]
  change decodeBody floatOf (bodyOf floatText job.toMessage) >>= _ = _
  rw [body]
  exact (reviewJobs strOf intOfText topology).reads job

theorem decodes_indexJobs (topology : KnowledgeQueueTopology) :
    (indexJobs strOf intOfText topology).Decodes floatText floatOf := by
  intro job
  have body : decodeBody floatOf (bodyOf floatText job.toMessage) = .ok job.toMessage := by
    apply decodeBody_bodyOf
    · simp
    · intro field member
      simp only [List.mem_cons, List.not_mem_nil, or_false] at member
      rcases member with rfl | rfl | rfl | rfl | rfl | rfl
      iterate 5 trivial
      cases job.outboxId <;> trivial
  rw [JobFamily.ofBody]
  change decodeBody floatOf (bodyOf floatText job.toMessage) >>= _ = _
  rw [body]
  exact (indexJobs strOf intOfText topology).reads job

/-! ## Copies -/

section Copies

variable {family : JobFamily} {delivery : RabbitMQDelivery family}

theorem calls_closeConnectionIfNeeded {allowed : QueueCall → Prop}
    (closing : allowed .closeConnection) :
    delivery.closeConnectionIfNeeded.Calls allowed :=
  Prog.Calls.onlyIf fun _ => Prog.calls_perform closing

/-- A copy is the only message that is published. -/
theorem calls_republish {allowed : QueueCall → Prop} (method : DeliveryMethod)
    (route : QueueRoute) (job : family.Job)
    (published : allowed (.basicPublish route (family.toMessage job)))
    (others : ∀ call, (∀ route message, call ≠ .basicPublish route message) →
      allowed call) :
    (delivery.republish method route job).Calls allowed := by
  apply Prog.Calls.tryFinally
  · apply Prog.Calls.bind
    · apply Prog.Calls.perform (others .confirmsEnabled fun _ _ => nofun)
      intro enabled
      apply Prog.Calls.bind
      · exact Prog.Calls.onlyIf fun _ =>
          Prog.calls_perform (others .confirmDelivery fun _ _ => nofun)
      · exact fun _ => Prog.calls_perform published
    · exact fun _ => Prog.calls_perform (others (.basicAck method) fun _ _ => nofun)
  · exact calls_closeConnectionIfNeeded (others .closeConnection fun _ _ => nofun)

theorem republishes_of_decodes (decodes : family.Decodes floatText floatOf)
    (method : DeliveryMethod) : delivery.Republishes floatText floatOf method := by
  have copied (method : DeliveryMethod) (route : QueueRoute) (job : family.Job) :
      (delivery.republish method route job).Calls fun call =>
        ∀ route message, call = .basicPublish route message →
          family.ofBody floatOf (bodyOf floatText message) = .ok (family.read job) := by
    apply calls_republish
    · rintro _ _ ⟨⟩
      exact decodes job
    · intro call other route message same
      exact absurd same (other route message)
  cases method with
  | ack =>
      apply Prog.Calls.tryFinally
      · exact Prog.calls_perform (by rintro _ _ ⟨⟩)
      · exact calls_closeConnectionIfNeeded (by rintro _ _ ⟨⟩)
  | retry =>
      simp only [RabbitMQDelivery.Republishes, RabbitMQDelivery.run, RabbitMQDelivery.retry,
        RabbitMQDelivery.copy]
      split
      · exact copied _ _ _
      · exact copied _ _ _
  | retryContention => exact copied _ _ _
  | deadLetter => exact copied _ _ _

end Copies

end Bodies

/-- Index jobs are decoded as they were sent.  Review jobs are decoded without their empty
optional texts, so exactly as they were sent if there are none of these, as in every job
that was decoded before.  Copies are decoded like the job that they copy. -/
theorem job_bodies (strOf : Json → String) (intOfText : String → Option Int)
    (floatText : JsonFloat → List Char) (floatOf : List Char → Option JsonFloat)
    (topology : QueueTopology) (knowledge : KnowledgeQueueTopology) :
    (∀ job : QueuedReviewJob,
        (reviewJobs strOf intOfText topology).ofBody floatOf
          (bodyOf floatText job.toMessage) = .ok job.read) ∧
      (∀ job : QueuedReviewJob, job.read = job ↔ job.NoEmptyText) ∧
      (∀ job : QueuedReviewJob, job.read.NoEmptyText) ∧
      (∀ job : KnowledgeIndexJob,
        (indexJobs strOf intOfText knowledge).ofBody floatOf
          (bodyOf floatText job.toMessage) = .ok job) ∧
      (∀ (delivery : RabbitMQDelivery (reviewJobs strOf intOfText topology))
        (method : DeliveryMethod), delivery.Republishes floatText floatOf method) ∧
      ∀ (delivery : RabbitMQDelivery (indexJobs strOf intOfText knowledge))
        (method : DeliveryMethod), delivery.Republishes floatText floatOf method := by
  have reviews : (reviewJobs strOf intOfText topology).Decodes floatText floatOf :=
    decodes_reviewJobs topology
  have indexes : (indexJobs strOf intOfText knowledge).Decodes floatText floatOf :=
    decodes_indexJobs knowledge
  refine ⟨reviews, fun job => job.read_eq_self_iff, ?_, indexes, ?_, ?_⟩
  · intro job
    rw [← QueuedReviewJob.read_eq_self_iff]
    exact job.read_read
  · exact fun delivery method => republishes_of_decodes reviews method
  · exact fun delivery method => republishes_of_decodes indexes method

/-! ## An email without a subject -/

def subjectlessJob : QueuedReviewJob where
  jobId := "job-1"
  contractId := "contract-1"
  contractVersionId := "version-1"
  workspaceId := "workspace-1"
  emailThreadId := "thread-1"
  requestedBy := "user@mail.test"
  originalSubject := some ""

/-- The empty subject does not arrive. -/
theorem empty_subject_lost :
    (reviewJobs (fun _ => "") (fun _ => none) {}).ofBody (fun _ => none)
        (bodyOf (fun _ => []) subjectlessJob.toMessage) ≠ .ok subjectlessJob := by
  have decoded : (reviewJobs (fun _ => "") (fun _ => none) {}).ofBody (fun _ => none)
      (bodyOf (fun _ => []) subjectlessJob.toMessage) = .ok subjectlessJob.read :=
    decodes_reviewJobs {} subjectlessJob
  rw [decoded]
  intro same
  have kept := congrArg QueuedReviewJob.originalSubject (Except.ok.inj same)
  simp [QueuedReviewJob.read, subjectlessJob, truthy] at kept

end ContractMate
