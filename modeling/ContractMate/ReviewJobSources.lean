import ContractMate.ReviewExecutions

/-!
# Where jobs and review emails come from

Which jobs an answer leaves at the broker, and which emails in the outbox: those
that were there, and what the call itself brings.
-/

namespace ContractMate

/-! ## The broker -/

/-- The broker took the message, whether or not the publisher learned of it. -/
def Choice.taken : Choice → Bool
  | .proceed | .raiseAfter _ => true
  | _ => false

namespace Broker

variable {broker after : Broker} {delivery : Nat} {job other : ContractReviewJob}

/-- The job is waiting, unacknowledged or dead. -/
def Has (broker : Broker) (job : ContractReviewJob) : Prop :=
  job ∈ broker.ready ∨ (∃ delivery, (delivery, job) ∈ broker.unacked) ∨
    job ∈ broker.dead

theorem has_of_publish {route : PublishRoute}
    (has : (broker.publish route job).Has other) :
    broker.Has other ∨ other = job := by
  cases route <;>
    simp only [publish, Has, List.mem_append, List.mem_singleton] at has ⊢ <;>
    tauto

theorem has_of_ack (has : (broker.ack delivery).Has job) : broker.Has job := by
  rcases has with ready | ⟨holder, unacked⟩ | dead
  · exact .inl ready
  · exact .inr (.inl ⟨holder, List.mem_of_mem_filter unacked⟩)
  · exact .inr (.inr dead)

theorem has_of_requeue (has : (broker.requeue delivery).Has job) :
    broker.Has job := by
  rcases has with ready | ⟨holder, unacked⟩ | dead
  · rcases List.mem_append.mp ready with ready | returned
    · exact .inl ready
    · obtain ⟨⟨holder, held⟩, member, rfl⟩ := List.mem_map.mp returned
      exact .inr (.inl ⟨holder, List.mem_of_mem_filter member⟩)
  · exact .inr (.inl ⟨holder, List.mem_of_mem_filter unacked⟩)
  · exact .inr (.inr dead)

end Broker

/-- The job that a call brings to the broker. -/
def ExternalCall.Brings (stamp : Stamp) (choice : Choice)
    (job : ContractReviewJob) : ExternalCall → Prop
  | .publishConfirmed _ republished => job = republished
  | .enqueueJob payload =>
      choice.taken = true ∧ job = payload.toJob (stamp.uuid4 0)
  | _ => False

section Answers

variable {broker after kept : Broker} {delivery : Nat} {choice : Choice}
  {job : ContractReviewJob}

theorem respondPlain_broker {reply : Except Exn Unit}
    (answered : respondPlain broker choice = some (reply, after)) :
    after = broker := by
  unfold respondPlain at answered
  split at answered <;> cases answered <;> rfl

theorem respondChannel_broker {reply : Except Exn Unit}
    (answered : respondChannel broker kept delivery choice = some (reply, after)) :
    after = broker ∨ after = kept := by
  unfold respondChannel at answered
  split at answered
  · split_ifs at answered <;> cases answered <;> simp
  · cases answered
    exact .inl rfl
  · split_ifs at answered <;> cases answered <;> simp
  · cases answered

/-- An answer leaves no job but those that were there and what its call brings. -/
theorem has_of_respondExternal {stamp : Stamp} {call : ExternalCall}
    {reply : Except Exn call.Ret}
    (answered : respondExternal stamp broker delivery choice call =
      some (reply, after))
    (has : after.Has job) :
    broker.Has job ∨ call.Brings stamp choice job := by
  have untouched (same : after = broker) :
      broker.Has job ∨ call.Brings stamp choice job :=
    .inl (same ▸ has)
  cases call with
  | filesInfo fileKey | validateUploadedFile mimeType
  | storeContractFile workspaceId sha256 | parse documentId sha256 mimeType
  | ocrExtract document | createValidatedReview contractId document =>
      simp only [respondExternal] at answered
      split at answered <;> cases answered <;> exact untouched rfl
  | enqueueJob payload =>
      simp only [respondExternal] at answered
      split at answered
      · cases answered
        exact (Broker.has_of_publish has).imp_right fun same => ⟨rfl, same⟩
      · cases answered
        exact untouched rfl
      · cases answered
        exact (Broker.has_of_publish has).imp_right fun same => ⟨rfl, same⟩
      · cases answered
  | publishConfirmed route republished =>
      rcases respondChannel_broker answered with same | rfl
      · exact untouched same
      · exact Broker.has_of_publish has
  | basicAck =>
      rcases respondChannel_broker answered with same | rfl
      · exact untouched same
      · exact .inl (Broker.has_of_ack has)
  | basicNack =>
      rcases respondChannel_broker answered with same | rfl
      · exact untouched same
      · exact .inl (Broker.has_of_requeue has)
  | openService | closeService | createHeartbeat key token | startHeartbeat
  | stopHeartbeat | createTempFile | unlinkFile | downloadContractFile key
  | downloadSlackFile url => exact untouched (respondPlain_broker answered)

end Answers

/-! ## The outbox -/

/-- The email that a call brings to the outbox. -/
def DatabaseCall.Brings (row : OutboundEmailRow) : DatabaseCall → Prop
  | .enqueueEmail intent => row.reviewJobId = intent.reviewJobId
  | _ => False

theorem mem_emails_of_body {stamp : Stamp} {database after : ReviewDatabase}
    {call : DatabaseCall} {answer : call.Ret} {row : OutboundEmailRow}
    (run : call.body stamp database = .ok (answer, after))
    (member : row ∈ after.emails.rows) :
    row ∈ database.emails.rows ∨ call.Brings row := by
  have untouched (same : after.emails = database.emails) :
      row ∈ database.emails.rows ∨ call.Brings row :=
    .inl (same ▸ member)
  cases call with
  | enqueueEmail intent =>
      cases run
      rcases RowTable.mem_insertIgnore member with member | rfl
      · exact .inl member
      · exact .inr rfl
  | insertContract contract =>
      simp only [DatabaseCall.body, ReviewDatabase.insertContract] at run
      split at run <;> cases run
      exact untouched rfl
  | insertRun workspaceId contractId versionId source jobId =>
      simp only [DatabaseCall.body, ReviewDatabase.insertRun] at run
      split at run <;> cases run
      exact untouched rfl
  | finalizeContractReview workspaceId contractId versionId review status =>
      simp only [DatabaseCall.body, ReviewDatabase.finalizeContractReview] at run
      split_ifs at run <;> cases run
      exact untouched rfl
  | _ =>
      cases run
      exact untouched rfl

/-! ## Known jobs -/

/-- The broker's jobs and the outbox's emails belong to known jobs. -/
structure ReviewWorld.Sourced (known : Uuid → Prop) (world : ReviewWorld) :
    Prop where
  jobs : ∀ job, world.broker.Has job → known job.jobId
  emails : ∀ row ∈ world.database.emails.rows, known row.reviewJobId

/-- The call brings nothing for a job that is not known. -/
def ReviewCall.Sources (known : Uuid → Prop) (stamp : Stamp) (choice : Choice) :
    ReviewCall → Prop
  | .slack _ => True
  | .database call => ∀ row, call.Brings row → known row.reviewJobId
  | .external call => ∀ job, call.Brings stamp choice job → known job.jobId

/-- An answer brings nothing for a job that is not known either. -/
theorem ReviewWorld.Sourced.respond {known : Uuid → Prop}
    {world after : ReviewWorld} {delivery : Nat} {choice : Choice}
    {request : ReviewCall} {reply : Except Exn request.Ret}
    (sourced : world.Sourced known)
    (sources : request.Sources known world.stamp choice)
    (answered : ReviewWorld.respond delivery choice world request =
      some (reply, after)) :
    after.Sourced known := by
  cases request with
  | slack call =>
      obtain ⟨rest, outcome⟩ := ReviewWorld.respond_slack answered
      constructor
      · rw [rest]
        exact sourced.jobs
      · rcases outcome with ⟨answer, _, body⟩ | ⟨_, same⟩
        · rw [(slackBody_ok body).2]
          exact sourced.emails
        · rw [same]
          exact sourced.emails
  | database call =>
      obtain ⟨rest, outcome⟩ := ReviewWorld.respond_database answered
      constructor
      · rw [rest]
        exact sourced.jobs
      · intro row member
        rcases outcome with ⟨answer, _, body⟩ | ⟨_, same⟩
        · rcases mem_emails_of_body body member with member | brings
          · exact sourced.emails row member
          · exact sources row brings
        · rw [same] at member
          exact sourced.emails row member
  | external call =>
      obtain ⟨rest, external⟩ := ReviewWorld.respond_external answered
      constructor
      · intro job has
        rcases has_of_respondExternal external has with has | brings
        · exact sourced.jobs job has
        · exact sources job brings
      · rw [rest]
        exact sourced.emails

end ContractMate
