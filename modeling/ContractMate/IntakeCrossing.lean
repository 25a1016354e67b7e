import ContractMate.ContractObjects
import ContractMate.EventRuns
import ContractMate.ReviewFootprints

/-!
# Intake beside deletion

One `enqueue_local_file` call interleaved with `delete_contract` calls.  The intake looks
its contract up without a lock and writes the status `QUEUED` some calls later; from then
on `delete_contract` refuses.  What it deletes in between is gone, and the intake still
answers that the review is queued.
-/

namespace ContractMate

/-! ## How far the intake has come -/

/-- The intake names a contract when it has found or inserted it, and marks it when it has
written the status. -/
inductive IntakePhase where
  | starting
  | named (ids : Uuid × Uuid)
  | marked (ids : Uuid × Uuid)
  | failed
deriving DecidableEq, Repr

/-- Calls that write no contract, no version and no object. -/
def ReviewCall.sparesIntake : ReviewCall → Prop
  | .database (.insertContract _) => False
  | .database (.updateContractStatus _ _) => False
  | .database (.finalizeContractReview _ _ _ _ _) => False
  | .external (.storeContractFile _ _) => False
  | _ => True

namespace IntakePhase

def permits : IntakePhase → ReviewCall → Prop
  | starting, .external (.validateUploadedFile _) => True
  | starting, .external (.storeContractFile _ _) => True
  | starting, .database (.findContract _ _) => True
  | starting, .database (.insertContract _) => True
  | starting, _ => False
  | named ids, .database (.updateContractStatus contractId status) =>
      contractId = ids.1 ∧ status = .queued
  | marked ids, .database (.updateContractStatus contractId _) => contractId = ids.1
  | _, call => call.sparesIntake

def next : IntakePhase → (request : ReviewCall) → Except Exn request.Ret → IntakePhase
  | starting, .database (.findContract _ _), .ok (some ids) => named ids
  | starting, .database (.insertContract _), .ok ids => named ids
  | named ids, .database (.updateContractStatus _ _), .ok _ => marked ids
  | marked _, .database (.updateContractStatus _ _), _ => failed
  | phase, _, _ => phase

/-- The contract and version that the intake has named. -/
def ids? : IntakePhase → Option (Uuid × Uuid)
  | named ids | marked ids => some ids
  | starting | failed => none

theorem next_of_spares {phase : IntakePhase} {request : ReviewCall}
    {reply : Except Exn request.Ret} (begun : phase ≠ starting)
    (spares : request.sparesIntake) : phase.next request reply = phase := by
  cases phase with
  | starting => exact absurd rfl begun
  | failed => rfl
  | named ids | marked ids =>
      cases request with
      | database call => cases call <;> first | rfl | exact spares.elim
      | _ => rfl

theorem permits_of_spares {phase : IntakePhase} {request : ReviewCall}
    (begun : phase ≠ starting) (spares : request.sparesIntake) : phase.permits request := by
  cases phase with
  | starting => exact absurd rfl begun
  | failed => exact spares
  | named ids | marked ids =>
      cases request with
      | database call => cases call <;> trivial
      | _ => exact spares

end IntakePhase

abbrev intakeMonitor : Monitor ReviewCall ReviewCall.Ret Exn :=
  .deterministic IntakePhase.permits IntakePhase.next

/-! ## What the intake asks for -/

section Footprint

variable {request : IntakeRequest} {ingested : IngestedContract}

theorem sparesIntake_of_measuring {call : ReviewCall} (measures : call.measuring) :
    call.sparesIntake := by
  cases call with
  | slack call => trivial
  | database call => cases call <;> trivial
  | external call => exact measures.elim

theorem sparesIntake_of_inquiring {call : ReviewCall} (inquires : call.inquiring) :
    call.sparesIntake := by
  cases call with
  | slack call => trivial
  | database call => cases call <;> trivial
  | external call => exact inquires.elim

theorem sparesIntake_of_recording {call : ReviewCall} (records : call.recording) :
    call.sparesIntake := by
  cases call with
  | slack call => trivial
  | database call => cases call <;> trivial
  | external call => exact records.elim

theorem sparesIntake_of_publishing {call : ReviewCall} (publishes : call.publishing) :
    call.sparesIntake := by
  cases call with
  | slack call => trivial
  | database call => exact publishes.elim
  | external call => cases call <;> trivial

theorem executionStatus_spares : (executionStatus request).Calls ReviewCall.sparesIntake :=
  executionStatus_calls.mono fun _ => sparesIntake_of_inquiring

theorem existingRun_spares : (existingRun request).Calls ReviewCall.sparesIntake :=
  existingRun_calls.mono fun _ => sparesIntake_of_inquiring

theorem completedSubmission_spares (run : Option ProcessingRun) :
    (completedSubmission ingested run).Calls ReviewCall.sparesIntake :=
  (completedSubmission_calls run).mono fun _ => sparesIntake_of_inquiring

theorem publishSubmission_spares (payload : JobPayload) :
    (publishSubmission request payload).Calls ReviewCall.sparesIntake :=
  (publishSubmission_calls payload).mono fun _ => sparesIntake_of_publishing

theorem processingRun_spares (existing : Option ProcessingRun) :
    (processingRun request ingested existing).Calls ReviewCall.sparesIntake :=
  (processingRun_calls existing).mono fun _ => sparesIntake_of_recording

theorem recordAudit_spares (workspaceId : String) (contractId : Uuid)
    (eventType : AuditEventType) :
    (recordAudit workspaceId contractId eventType).Calls ReviewCall.sparesIntake :=
  Prog.Calls.perform trivial fun _ => Prog.calls_pure

/-- A program that writes no contract leaves the phase. -/
theorem conforms_of_spares {Value : Type} {program : ReviewProg Value} {phase : IntakePhase}
    (property : Value → Prop) (calls : program.Calls ReviewCall.sparesIntake)
    (returns : program.Returns property) (begun : phase ≠ .starting) :
    intakeMonitor.Conforms program (fun result after =>
      after = phase ∧ ∀ value, result = .ok value → property value) phase := by
  have stays (here : IntakePhase) (call : ReviewCall) (same : here = phase)
      (spares : call.sparesIntake) :
      here.permits call ∧ ∀ reply after, after = here.next call reply → after = phase := by
    subst same
    refine ⟨IntakePhase.permits_of_spares begun spares, ?_⟩
    rintro reply after rfl
    exact IntakePhase.next_of_spares begun spares
  exact Monitor.conforms_of_calls_ends calls stays returns rfl

end Footprint

/-! ## What a queued answer names -/

/-- An answer that a review is queued names the contract that the intake has named. -/
def IntakePhase.Answers (result : Except Exn ContractProcessingResult)
    (phase : IntakePhase) : Prop :=
  ∀ value, result = .ok value → value.status = .queued →
    ∃ ids, phase.ids? = some ids ∧ value.contractId = some ids.1 ∧
      value.contractVersionId = some ids.2

section Conformance

variable {request : IntakeRequest} {ingested : IngestedContract} {phase : IntakePhase}

/-- The ingested contract is the one that the intake has named. -/
def IntakePhase.Ingested (ingestion : Except Exn (ContractProcessingResult ⊕ IngestedContract))
    (phase : IntakePhase) : Prop :=
  ∀ value, ingestion = .ok value → match value with
    | .inl rejected => rejected.status = .rejectedFile
    | .inr ingested => phase = .named (ingested.contractId, ingested.contractVersionId)

theorem ingested_error (error : Exn) {phase : IntakePhase} :
    IntakePhase.Ingested (.error error) phase := by
  intro value same
  cases same

theorem answers_error (error : Exn) {phase : IntakePhase} :
    IntakePhase.Answers (.error error) phase := by
  intro value same
  cases same

theorem conforms_storedObject (sha256 : String) :
    intakeMonitor.Conforms (storedObject request sha256)
      (fun _ after => after = .starting) .starting := by
  unfold storedObject
  split
  · rfl
  · refine ⟨trivial, ?_⟩
    rintro reply after rfl
    cases reply <;> rfl

theorem conforms_createContract (contract : NewContract) :
    intakeMonitor.Conforms (createContractWithVersion contract)
      (fun result after => ∀ ids, result = .ok ids → after = .named ids) .starting := by
  refine ⟨trivial, ?_⟩
  rintro reply after rfl
  cases reply with
  | error error => exact nofun
  | ok existing =>
      cases existing with
      | some ids =>
          rintro _ same
          cases same
          rfl
      | none =>
          refine ⟨trivial, ?_⟩
          rintro reply after rfl
          rintro ids rfl
          rfl

/-- The ingested contract and its version. -/
def Ingests (ids : Uuid × Uuid) : ContractProcessingResult ⊕ IngestedContract → Prop
  | .inl _ => False
  | .inr ingested => (ingested.contractId, ingested.contractVersionId) = ids

theorem conforms_ingestLocalFile :
    intakeMonitor.Conforms (ingestLocalFile request) IntakePhase.Ingested .starting := by
  refine ⟨trivial, ?_⟩
  rintro reply after rfl
  cases reply with
  | error error => exact ingested_error error
  | ok validation =>
      change intakeMonitor.Conforms (ite _ _ _) IntakePhase.Ingested .starting
      split
      · rintro _ same
        cases same
        rfl
      · split
        · refine (conforms_storedObject _).bind ?_ fun error after _ =>
            ingested_error error
          rintro objectKey after rfl
          refine (conforms_createContract _).bind ?_ fun error after _ =>
            ingested_error error
          intro ids after named
          obtain rfl := named ids rfl
          have begun : IntakePhase.named ids ≠ .starting := nofun
          refine (conforms_of_spares (Ingests ids) ?_ ?_ begun).mono ?_
          · refine Prog.Calls.perform trivial fun source => ?_
            refine Prog.Calls.bind (.onlyIf fun _ => Prog.calls_perform trivial) fun _ => ?_
            exact (recordAudit_spares _ _ _).bind fun _ => Prog.calls_pure
          · refine Prog.Returns.bind Prog.returns_true fun source _ => ?_
            refine Prog.Returns.bind Prog.returns_true fun _ _ => ?_
            refine Prog.Returns.bind Prog.returns_true fun _ _ => ?_
            exact Prog.returns_pure.mpr rfl
          · rintro result after ⟨rfl, ended⟩ value rfl
            have own := ended value rfl
            cases value with
            | inl rejected => exact own.elim
            | inr ingested => exact congrArg IntakePhase.named own.symm
        · exact ingested_error _

/-- The contract of the ingested file, and its version. -/
abbrev IngestedContract.ids (ingested : IngestedContract) : Uuid × Uuid :=
  (ingested.contractId, ingested.contractVersionId)

theorem answers_of_ids {value : ContractProcessingResult} (phased : phase.ids? =
      some ingested.ids) (contract : value.contractId = some ingested.contractId)
    (version : value.contractVersionId = some ingested.contractVersionId) :
    IntakePhase.Answers (.ok value) phase := by
  rintro _ same _
  cases same
  exact ⟨ingested.ids, phased, contract, version⟩

theorem metricFailed_spares (runId : Option Uuid) :
    (metricFailed runId).Calls ReviewCall.sparesIntake :=
  (metricFailed_calls runId).mono fun _ => sparesIntake_of_measuring

theorem conforms_marking :
    intakeMonitor.Conforms (updateContractStatus ingested.contractId .queued)
      (fun result after => ∀ value, result = .ok value → after = .marked ingested.ids)
      (.named ingested.ids) := by
  refine ⟨⟨rfl, rfl⟩, ?_⟩
  rintro reply after rfl
  cases reply with
  | error error => exact nofun
  | ok value => exact fun _ _ => rfl

theorem conforms_failing :
    intakeMonitor.Conforms (updateContractStatus ingested.contractId .analysisFailed)
      (fun _ after => after = .failed) (.marked ingested.ids) := by
  refine ⟨rfl, ?_⟩
  rintro reply after rfl
  cases reply <;> rfl

theorem conforms_afterFailure (runId : Option Uuid) (error : Exn) :
    intakeMonitor.Conforms (afterPublication ingested runId (.error error))
      IntakePhase.Answers (.marked ingested.ids) := by
  have begun : IntakePhase.marked ingested.ids ≠ .starting := nofun
  have failed : IntakePhase.failed ≠ .starting := nofun
  refine (conforms_of_spares (fun _ => True) (metricFailed_spares runId)
    Prog.returns_true begun).bind ?_ fun error after _ => answers_error error
  rintro _ after ⟨rfl, _⟩
  refine conforms_failing.bind ?_ fun error after _ => answers_error error
  rintro _ after rfl
  refine (conforms_of_spares (fun _ => True) (recordAudit_spares _ _ _)
    Prog.returns_true failed).bind ?_ fun error after _ => answers_error error
  intro _ after _
  exact answers_error error

theorem conforms_afterSuccess (runId : Option Uuid) (jobId : Uuid) :
    intakeMonitor.Conforms (afterPublication ingested runId (.ok jobId))
      IntakePhase.Answers (.marked ingested.ids) := by
  have begun : IntakePhase.marked ingested.ids ≠ .starting := nofun
  refine (conforms_of_spares (fun _ => True) (recordAudit_spares _ _ _)
    Prog.returns_true begun).bind ?_ fun error after _ => answers_error error
  rintro _ after ⟨rfl, _⟩
  have metric : (metricOfRun runId fun runId => do
      let _ ← callDatabase (.setRunJobId runId jobId)
      pure ()).Calls ReviewCall.sparesIntake :=
    metricOfRun_calls runId fun _ =>
      Prog.Calls.perform trivial fun _ => Prog.calls_pure
  refine (conforms_of_spares (fun _ => True) metric Prog.returns_true begun).bind ?_
    fun error after _ => answers_error error
  rintro _ after ⟨rfl, _⟩
  exact answers_of_ids rfl rfl rfl

theorem conforms_queueReview (existing : Option ProcessingRun) :
    intakeMonitor.Conforms (queueReview request ingested existing) IntakePhase.Answers
      (.named ingested.ids) := by
  have begun : IntakePhase.marked ingested.ids ≠ .starting := nofun
  rw [queueReview_eq]
  refine conforms_marking.bind ?_ fun error after _ => answers_error error
  intro value after marking
  obtain rfl := marking value rfl
  refine (conforms_of_spares (fun _ => True) (processingRun_spares existing)
    Prog.returns_true begun).bind ?_ fun error after _ => answers_error error
  rintro runId after ⟨rfl, _⟩
  refine (conforms_of_spares (fun _ => True) (publishSubmission_spares _)
    Prog.returns_true begun).handle ?_
  rintro result after ⟨rfl, _⟩
  cases result with
  | error error => exact conforms_afterFailure runId error
  | ok jobId => exact conforms_afterSuccess runId jobId

theorem conforms_completedSubmission (existing : Option ProcessingRun) :
    intakeMonitor.Conforms (completedSubmission ingested existing) IntakePhase.Answers
      (.named ingested.ids) := by
  have begun : IntakePhase.named ingested.ids ≠ .starting := nofun
  refine (conforms_of_spares (fun value => value.contractId = some ingested.contractId ∧
    value.contractVersionId = some ingested.contractVersionId)
    (completedSubmission_spares existing) ?_ begun).mono ?_
  · refine Prog.Returns.bind Prog.returns_true fun review _ => ?_
    refine Prog.Returns.bind Prog.returns_true fun status _ => ?_
    exact Prog.returns_pure.mpr ⟨rfl, rfl⟩
  · rintro result after ⟨rfl, ended⟩ value rfl queued
    exact answers_of_ids rfl (ended value rfl).1 (ended value rfl).2 value rfl queued

theorem conforms_submitIngested :
    intakeMonitor.Conforms (submitIngested request ingested) IntakePhase.Answers
      (.named ingested.ids) := by
  have begun : IntakePhase.named ingested.ids ≠ .starting := nofun
  refine (conforms_of_spares (fun _ => True) executionStatus_spares
    Prog.returns_true begun).bind ?_ fun error after _ => answers_error error
  rintro status after ⟨rfl, _⟩
  refine (conforms_of_spares (fun _ => True) existingRun_spares
    Prog.returns_true begun).bind ?_ fun error after _ => answers_error error
  rintro existing after ⟨rfl, _⟩
  split
  · exact conforms_completedSubmission existing
  · cases existing with
    | none => exact conforms_queueReview none
    | some run =>
        dsimp only
        split_ifs
        · exact answers_error _
        · exact answers_of_ids rfl rfl rfl
        · exact conforms_queueReview (some run)

theorem conforms_enqueueLocalFile (request : IntakeRequest) :
    intakeMonitor.Conforms (enqueueLocalFile request) IntakePhase.Answers .starting := by
  refine conforms_ingestLocalFile.bind ?_ fun error after _ => answers_error error
  intro ingestion after ingestions
  have reached := ingestions ingestion rfl
  cases ingestion with
  | inl rejected =>
      have other : rejected.status = .rejectedFile := reached
      rintro value same queued
      cases same
      rw [other] at queued
      cases queued
  | inr ingested =>
      obtain rfl : after = .named ingested.ids := reached
      exact conforms_submitIngested

end Conformance

/-! ## The two calls beside each other -/

/-- The world, what is left of the intake, and how far it has come. -/
structure CrossingState where
  world : ObjectWorld
  intake : ReviewProg ContractProcessingResult
  phase : IntakePhase := .starting

inductive CrossingEvent where
  | intake (choice : Choice)
  | deletion (event : DeletionEvent)

def CrossingState.start (world : ObjectWorld) (request : IntakeRequest) : CrossingState where
  world := world
  intake := enqueueLocalFile request

/-- The next call of the intake, or the next event of a deletion. -/
def CrossingState.next? (state : CrossingState) : CrossingEvent → Option CrossingState
  | .intake choice =>
      match state.intake with
      | .done _ => none
      | .call request next =>
          (ObjectWorld.respond choice state.world request).map fun answer =>
            { world := answer.2, intake := next answer.1
              phase := state.phase.next request answer.1 }
  | .deletion event => (event.after? state.world).map fun world => { state with world }

abbrev CrossingStep := EventStep CrossingState CrossingEvent

abbrev CrossingStep.after (step : CrossingStep) : CrossingState :=
  EventStep.after CrossingState.next? step

/-- The interleavings of one `enqueue_local_file` call with `delete_contract` calls. -/
abbrev CrossingRun (world : ObjectWorld) (request : IntakeRequest) :
    List CrossingStep → CrossingState → Prop :=
  EventStep.Run CrossingState.next? (.start world request)

/-- The object that a deletion deletes next. -/
def ObjectWorld.nextKey? (world : ObjectWorld) : Option String :=
  world.deletion.bind fun deletion => deletion.keys.head?

/-- When the intake names a version, its object is there.  From then on no deletion
deletes that object, and none deletes the contract's rows, except that nothing is asked
of a deletion of the contract once its status is written. -/
def CrossingStep.Spared (step : CrossingStep) : Prop :=
  match step.event with
  | .intake _ => ∀ ids, step.before.phase = .starting → step.after.phase = .named ids →
      step.after.world.Stored ids.2
  | .deletion .deleteObject => ∀ ids, step.before.phase.ids? = some ids →
      step.before.phase = .marked ids ∧ step.before.world.locks ids.1 = true ∨
        ∀ version, step.before.world.database.versions.find? ids.2 = some version →
          step.before.world.nextKey? ≠ some version.objectKey
  | .deletion .commit => ∀ ids, step.before.phase = .named ids →
      step.before.world.locks ids.1 = false
  | .deletion _ => True

namespace ObjectWorld

/-- Nobody deletes the contract, and its status keeps it from being deleted. -/
def Guarded (world : ObjectWorld) (ids : Uuid × Uuid) : Prop :=
  world.locks ids.1 = false ∧ ∀ row, world.database.contracts.find? ids.1 = some row →
    row.status = .queued

/-- The rows of contract and version. -/
def HasRows (world : ObjectWorld) (ids : Uuid × Uuid) : Prop :=
  (world.database.contracts.find? ids.1).isSome = true ∧
    ∃ version, world.database.versions.find? ids.2 = some version ∧
      version.contractId = ids.1

variable {world after : ObjectWorld} {ids : Uuid × Uuid} {choice : Choice}
  {request : ReviewCall} {reply : Except Exn request.Ret}

theorem HasRows.intact_iff (rows : world.HasRows ids) :
    world.Intact ids ↔ world.Stored ids.2 := by
  obtain ⟨contract, version, found, owner⟩ := rows
  constructor
  · rintro ⟨_, other, present, _, stored⟩
    exact ⟨other, present, stored⟩
  · rintro ⟨other, present, stored⟩
    have same : other = version := by
      rw [present] at found
      exact Option.some.inj found
    exact ⟨contract, other, present, same ▸ owner, stored⟩

theorem hasRows_of_findContract {workspaceId sha256 : String}
    (found : world.database.findContract workspaceId sha256 = some ids) :
    world.HasRows ids := by
  have holds : world.database.Holds (workspaceId, sha256) ids :=
    ReviewDatabase.holds_of_findContract found
  obtain ⟨contract, version, stored, _, present, owner, _⟩ := holds
  exact ⟨Option.isSome_iff_exists.mpr ⟨contract, stored⟩, version, present, owner⟩

theorem hasRows_of_insertContract {stamp : Stamp} {contract : NewContract}
    {database : ReviewDatabase}
    (inserted : database.insertContract stamp contract = .ok (ids, world.database)) :
    world.HasRows ids := by
  obtain ⟨rfl, contracts, versions, newContract, newVersion, same⟩ :=
    ReviewDatabase.insertContract_ok inserted
  unfold HasRows
  rw [same]
  refine ⟨?_, ReviewDatabase.newVersionRow stamp contract, ?_, rfl⟩
  · change (contracts.find? (stamp.uuid4 0)).isSome = true
    rw [RowTable.find?_insert? newContract, if_pos (by rfl)]
    rfl
  · change versions.find? (stamp.uuid4 1) = _
    rw [RowTable.find?_insert? newVersion, if_pos (by rfl)]

/-- What the intake names is there. -/
theorem hasRows_of_named
    (permitted : IntakePhase.starting.permits request)
    (answered : respond choice world request = some (reply, after))
    (named : IntakePhase.starting.next request reply = .named ids) : after.HasRows ids := by
  obtain ⟨_, reviewed, _, _⟩ := respond_eq_some answered
  cases request with
  | slack call => exact permitted.elim
  | external call => cases named
  | database call =>
      cases call with
      | findContract workspaceId sha256 =>
          rcases (ReviewWorld.respond_database reviewed).2 with
            ⟨value, rfl, ran⟩ | ⟨failed, _⟩
          · cases value with
            | none => cases named
            | some found =>
                cases named
                have same := Except.ok.inj ran
                have found : world.database.findContract workspaceId sha256 = some ids :=
                  congrArg Prod.fst same
                have kept : world.database = after.database := congrArg Prod.snd same
                unfold HasRows
                rw [← kept]
                exact hasRows_of_findContract found
          · cases reply with
            | error error => cases named
            | ok value => cases failed
      | insertContract contract =>
          rcases (ReviewWorld.respond_database reviewed).2 with
            ⟨value, rfl, ran⟩ | ⟨failed, _⟩
          · cases named
            exact hasRows_of_insertContract ran
          · cases reply with
            | error error => cases named
            | ok value => cases failed
      | _ => exact permitted.elim

theorem sparesContracts_of_sparesIntake (spares : request.sparesIntake) :
    request.sparesContracts := by
  cases request with
  | database call => cases call <;> trivial
  | _ => trivial

theorem intact_of_spares (spares : request.sparesIntake)
    (answered : respond choice world request = some (reply, after)) :
    after.Intact ids ↔ world.Intact ids := by
  have tables := contracts_of_respond (sparesContracts_of_sparesIntake spares) answered
  have unlike (workspaceId sha256 : String) :
      request ≠ .external (.storeContractFile workspaceId sha256) := by
    rintro rfl
    exact spares
  exact intact_congr (by rw [tables.1]) tables.2 (objects_of_respond unlike answered)

theorem guarded_of_spares (spares : request.sparesIntake)
    (answered : respond choice world request = some (reply, after))
    (guarded : world.Guarded ids) : after.Guarded ids := by
  have tables := contracts_of_respond (sparesContracts_of_sparesIntake spares) answered
  unfold Guarded locks at guarded ⊢
  rw [tables.1, (respond_eq_some answered).2.2.2]
  exact guarded

variable {contractId : Uuid} {status : WorkflowState} {marking : Except Exn Unit}

/-- A status write changes the status of one contract, or nothing. -/
theorem database_of_updateStatus
    (answered : respond choice world (.database (.updateContractStatus contractId status)) =
      some (marking, after)) :
    after.database = world.database.updateContractStatus contractId status ∨
      (marking.isOk = false ∧ after.database = world.database) := by
  obtain ⟨_, reviewed, _, _⟩ := respond_eq_some answered
  rcases (ReviewWorld.respond_database reviewed).2 with ⟨value, _, ran⟩ | failed
  · exact .inl (congrArg Prod.snd (Except.ok.inj ran)).symm
  · exact .inr failed

theorem intact_of_updateStatus
    (answered : respond choice world (.database (.updateContractStatus contractId status)) =
      some (marking, after)) :
    after.Intact ids ↔ world.Intact ids := by
  have objects : after.objects = world.objects := by
    apply objects_of_respond _ answered
    rintro _ _ same
    cases same
  rcases database_of_updateStatus answered with updated | ⟨_, kept⟩
  · apply intact_congr _ _ objects
    · rw [updated, ReviewDatabase.updateContractStatus, RowTable.find?_updateWhere,
        Option.isSome_map]
    · rw [updated]
      rfl
  · exact intact_congr (by rw [kept]) (by rw [kept]) objects

/-- Once the status is written, the contract is guarded. -/
theorem guarded_of_marking
    (answered : respond choice world (.database (.updateContractStatus ids.1 .queued)) =
      some (.ok (), after)) :
    after.Guarded ids := by
  obtain ⟨free, _, _, deletion⟩ := respond_eq_some answered
  refine ⟨?_, ?_⟩
  · unfold locks
    rw [deletion]
    exact free
  · rcases database_of_updateStatus answered with updated | ⟨failed, _⟩
    · rw [updated, ReviewDatabase.updateContractStatus, RowTable.find?_updateWhere]
      intro row found
      obtain ⟨before, stored, rfl⟩ := Option.map_eq_some_iff.mp found
      rw [if_pos (by simpa using RowTable.key_of_find? stored)]
    · cases failed

end ObjectWorld

/-! ## Deletions beside a contract -/

section Deletions

variable {world after : ObjectWorld} {ids : Uuid × Uuid} {event : DeletionEvent}

/-- A guarded contract keeps its guard, and the deletion of another one never commits
its rows. -/
theorem guarded_of_deletion (moves : event.Moves world after)
    (guarded : world.Guarded ids) : after.Guarded ids := by
  obtain ⟨free, queued⟩ := guarded
  cases moves with
  | refused idle => exact ⟨free, queued⟩
  | rolledBack => exact ⟨rfl, queued⟩
  | @locked workspaceId contractId row idle deletable =>
      obtain ⟨found, _, inactive⟩ := ReviewDatabase.deletable_ok deletable
      refine ⟨?_, queued⟩
      apply decide_eq_false
      rintro rfl
      rw [queued row found] at inactive
      cases inactive
  | @deleted workspaceId contractId key keys underway =>
      refine ⟨?_, queued⟩
      rw [ObjectWorld.locks, underway] at free
      exact free
  | @committed workspaceId contractId underway =>
      refine ⟨rfl, ?_⟩
      intro row found
      have found : (world.database.deleteRows workspaceId contractId).contracts.find? ids.1 =
        some row := found
      rw [ReviewDatabase.find?_contracts_deleteRows, Option.filter_eq_some_iff] at found
      exact queued row found.1

end Deletions

/-! ## Runs -/

/-- What the run so far says of the contract that the intake has named. -/
def CrossingHolds (steps : List CrossingStep) (state : CrossingState) : Prop :=
  match state.phase with
  | .starting => ∀ step ∈ steps, step.Spared
  | .named ids => state.world.Intact ids ↔ ∀ step ∈ steps, step.Spared
  | .marked ids => (state.world.Intact ids ↔ ∀ step ∈ steps, step.Spared) ∧
      state.world.Guarded ids
  | .failed => True

section Runs

variable {steps : List CrossingStep} {state : CrossingState} {ids : Uuid × Uuid}
  {choice : Choice} {request : ReviewCall}
  {next : Except Exn request.Ret → ReviewProg ContractProcessingResult}
  {reply : Except Exn request.Ret} {world : ObjectWorld}

theorem forall_spared_concat {step : CrossingStep} :
    (∀ other ∈ steps ++ [step], other.Spared) ↔
      (∀ other ∈ steps, other.Spared) ∧ step.Spared := by
  simp only [List.forall_mem_append, List.forall_mem_singleton]

theorem spared_of_begun (begun : state.phase ≠ .starting) :
    CrossingStep.Spared ⟨.intake choice, state⟩ :=
  fun _ first => absurd first begun

theorem forall_spared_of_begun (begun : state.phase ≠ .starting) :
    (∀ other ∈ steps ++ [(⟨.intake choice, state⟩ : CrossingStep)], other.Spared) ↔
      ∀ other ∈ steps, other.Spared := by
  rw [forall_spared_concat]
  exact and_iff_left (spared_of_begun begun)

theorem IntakePhase.next_starting (request : ReviewCall) (reply : Except Exn request.Ret) :
    IntakePhase.starting.next request reply = .starting ∨
      ∃ ids, IntakePhase.starting.next request reply = .named ids := by
  unfold IntakePhase.next
  split
  · exact .inr ⟨_, rfl⟩
  · exact .inr ⟨_, rfl⟩
  · rename_i impossible
    cases impossible
  · rename_i impossible
    cases impossible
  · exact .inl rfl

theorem IntakePhase.named_permits {request : ReviewCall}
    (permitted : (IntakePhase.named ids).permits request) :
    request.sparesIntake ∨ request = .database (.updateContractStatus ids.1 .queued) := by
  cases request with
  | database call =>
      cases call with
      | updateContractStatus contractId status =>
          obtain ⟨rfl, rfl⟩ := permitted
          exact .inr rfl
      | _ => exact .inl permitted
  | _ => exact .inl permitted

theorem IntakePhase.marked_permits {request : ReviewCall}
    (permitted : (IntakePhase.marked ids).permits request) :
    request.sparesIntake ∨
      ∃ status, request = .database (.updateContractStatus ids.1 status) := by
  cases request with
  | database call =>
      cases call with
      | updateContractStatus contractId status =>
          obtain rfl : contractId = ids.1 := permitted
          exact .inr ⟨status, rfl⟩
      | _ => exact .inl permitted
  | _ => exact .inl permitted

/-- An answered call of the intake. -/
theorem holds_of_intake (holds : CrossingHolds steps state)
    (stands : state.intake = .call request next)
    (permitted : state.phase.permits request)
    (answered : ObjectWorld.respond choice state.world request = some (reply, world)) :
    CrossingHolds (steps ++ [⟨.intake choice, state⟩])
      { world, intake := next reply, phase := state.phase.next request reply } := by
  have moved : CrossingStep.after ⟨.intake choice, state⟩ =
      { world, intake := next reply, phase := state.phase.next request reply } := by
    apply EventStep.after_of_next?
    simp [CrossingState.next?, stands, answered]
  obtain ⟨before, intake, phase⟩ := state
  simp only at stands permitted answered moved ⊢
  cases phase with
  | starting =>
      rcases IntakePhase.next_starting request reply with stays | ⟨ids, named⟩
      · rw [stays] at moved ⊢
        apply forall_spared_concat.mpr ⟨holds, _⟩
        intro ids _ named
        rw [moved] at named
        cases named
      · have rows := ObjectWorld.hasRows_of_named permitted answered named
        rw [named] at moved ⊢
        apply rows.intact_iff.trans
        rw [forall_spared_concat]
        constructor
        · intro stored
          refine ⟨holds, ?_⟩
          intro other _ same
          rw [moved] at same ⊢
          cases same
          exact stored
        · rintro ⟨_, spared⟩
          have stored := spared ids rfl (by rw [moved])
          rwa [moved] at stored
  | named ids =>
      have begun : IntakePhase.named ids ≠ .starting := nofun
      have spared : (∀ other ∈ steps ++
          [(⟨.intake choice, ⟨before, intake, .named ids⟩⟩ : CrossingStep)], other.Spared) ↔
          ∀ other ∈ steps, other.Spared :=
        forall_spared_of_begun begun
      rcases IntakePhase.named_permits permitted with spares | rfl
      · rw [IntakePhase.next_of_spares begun spares]
        apply (ObjectWorld.intact_of_spares spares answered).trans
        exact Iff.trans holds spared.symm
      · have same : world.Intact ids ↔ _ :=
          (ObjectWorld.intact_of_updateStatus answered).trans (Iff.trans holds spared.symm)
        cases reply with
        | error error => exact same
        | ok value => exact ⟨same, ObjectWorld.guarded_of_marking answered⟩
  | marked ids =>
      have begun : IntakePhase.marked ids ≠ .starting := nofun
      have spared : (∀ other ∈ steps ++
          [(⟨.intake choice, ⟨before, intake, .marked ids⟩⟩ : CrossingStep)], other.Spared) ↔
          ∀ other ∈ steps, other.Spared :=
        forall_spared_of_begun begun
      rcases IntakePhase.marked_permits permitted with spares | ⟨status, rfl⟩
      · rw [IntakePhase.next_of_spares begun spares]
        refine ⟨?_, ObjectWorld.guarded_of_spares spares answered holds.2⟩
        apply (ObjectWorld.intact_of_spares spares answered).trans
        exact holds.1.trans spared.symm
      · trivial
  | failed => trivial

/-- Deleting the next object spares the intake's version if it is the object of another
one. -/
theorem spared_deleteObject_iff {workspaceId key : String} {contractId : Uuid}
    {keys : List String} (named : state.phase.ids? = some ids)
    (free : state.phase = .marked ids → state.world.locks ids.1 = false)
    (underway : state.world.deletion = some ⟨workspaceId, contractId, key :: keys⟩) :
    CrossingStep.Spared ⟨.deletion .deleteObject, state⟩ ↔
      ∀ version, state.world.database.versions.find? ids.2 = some version →
        version.objectKey ≠ key := by
  have nextKey : state.world.nextKey? = some key := by
    rw [ObjectWorld.nextKey?, underway]
    rfl
  simp only [CrossingStep.Spared, nextKey, named]
  constructor
  · intro spared version found same
    rcases spared ids rfl with ⟨marked, locked⟩ | other
    · rw [free marked] at locked
      cases locked
    · exact other version found (by rw [same])
  · rintro other _ same
    cases same
    refine .inr fun version found same => other version found ?_
    exact (Option.some.inj same).symm

/-- Committing spares the intake's contract if it is the deletion of another one. -/
theorem spared_commit_iff {workspaceId : String} {contractId : Uuid}
    (named : state.phase = .named ids)
    (underway : state.world.deletion = some ⟨workspaceId, contractId, []⟩) :
    CrossingStep.Spared ⟨.deletion .commit, state⟩ ↔ contractId ≠ ids.1 := by
  have locks (id : Uuid) : state.world.locks id = decide (contractId = id) := by
    rw [ObjectWorld.locks, underway]
    rfl
  simp only [CrossingStep.Spared, locks, named, decide_eq_false_iff_not]
  constructor
  · intro spared
    exact spared ids rfl
  · rintro other _ same
    cases same
    exact other

/-- Before the intake has named a contract, and in the other steps of a deletion, there is
nothing to spare. -/
theorem spared_of_unnamed {event : DeletionEvent} (unnamed : state.phase.ids? = none) :
    CrossingStep.Spared ⟨.deletion event, state⟩ := by
  cases event with
  | deleteObject =>
      intro ids named
      rw [unnamed] at named
      cases named
  | commit =>
      intro ids named
      rw [named] at unnamed
      cases unnamed
  | _ => trivial

theorem holds_of_deletion {event : DeletionEvent} (holds : CrossingHolds steps state)
    (happens : event.after? state.world = some world) :
    CrossingHolds (steps ++ [⟨.deletion event, state⟩]) { state with world } := by
  have moves := DeletionEvent.moves_of_after? happens
  obtain ⟨before, intake, phase⟩ := state
  cases phase with
  | starting => exact forall_spared_concat.mpr ⟨holds, spared_of_unnamed rfl⟩
  | failed => trivial
  | named ids =>
      have holds : before.Intact ids ↔ ∀ step ∈ steps, step.Spared := holds
      change world.Intact ids ↔ _
      rw [forall_spared_concat, ← holds]
      cases moves with
      | locked free deletable | refused free | rolledBack => exact (and_iff_left trivial).symm
      | deleted underway =>
          rw [spared_deleteObject_iff rfl (fun marked => by cases marked) underway]
          exact ObjectWorld.intact_filter _ _ rfl
      | committed underway =>
          rw [spared_commit_iff rfl underway]
          exact ObjectWorld.intact_deleteRows _ _ rfl
  | marked ids =>
      obtain ⟨holds, guarded⟩ : (before.Intact ids ↔ ∀ step ∈ steps, step.Spared) ∧
        before.Guarded ids := holds
      refine ⟨?_, guarded_of_deletion moves guarded⟩
      change world.Intact ids ↔ _
      rw [forall_spared_concat, ← holds]
      cases moves with
      | locked free deletable | refused free | rolledBack => exact (and_iff_left trivial).symm
      | deleted underway =>
          rw [spared_deleteObject_iff rfl (fun _ => guarded.1) underway]
          exact ObjectWorld.intact_filter _ _ rfl
      | @committed workspaceId contractId underway =>
          have other : contractId ≠ ids.1 := by
            have free := guarded.1
            rw [ObjectWorld.locks, underway] at free
            exact of_decide_eq_false free
          have silent : CrossingStep.Spared
              ⟨.deletion .commit, ⟨before, intake, .marked ids⟩⟩ := by
            intro _ named
            cases named
          rw [and_iff_left silent]
          apply (ObjectWorld.intact_deleteRows _ _ rfl).trans
          exact and_iff_left other

theorem crossing_of_run {start : ObjectWorld} {submitted : IntakeRequest}
    {final : CrossingState} (run : CrossingRun start submitted steps final) :
    intakeMonitor.Conforms final.intake IntakePhase.Answers final.phase ∧
      CrossingHolds steps final := by
  apply run.induct (motive := fun steps state =>
    intakeMonitor.Conforms state.intake IntakePhase.Answers state.phase ∧
      CrossingHolds steps state)
  · exact ⟨conforms_enqueueLocalFile submitted, by simp [CrossingHolds, CrossingState.start]⟩
  · rintro steps state event reached _ ⟨conforms, holds⟩ next
    cases event with
    | intake choice =>
        simp only [CrossingState.next?] at next
        split at next
        · cases next
        · rename_i request rest stands
          obtain ⟨⟨reply, world⟩, answered, rfl⟩ := Option.map_eq_some_iff.mp next
          rw [stands] at conforms
          exact ⟨conforms.2 reply _ rfl, holds_of_intake holds stands conforms.1 answered⟩
    | deletion event =>
        obtain ⟨world, happens, rfl⟩ := Option.map_eq_some_iff.mp next
        exact ⟨conforms, holds_of_deletion holds happens⟩

/-- Once `enqueue_local_file` has answered `QUEUED`, the contract and version that it names
and the version's object are there exactly if every step has spared them. -/
theorem queued_intact_iff {start : ObjectWorld} {submitted : IntakeRequest}
    {final : CrossingState} (run : CrossingRun start submitted steps final)
    {result : ContractProcessingResult} (returned : final.intake = .done (.ok result))
    (queued : result.status = .queued) :
    ∃ ids : Uuid × Uuid, result.contractId = some ids.1 ∧
      result.contractVersionId = some ids.2 ∧
      (final.world.Intact ids ↔ ∀ step ∈ steps, step.Spared) := by
  obtain ⟨conforms, holds⟩ := crossing_of_run run
  rw [returned] at conforms
  obtain ⟨ids, phased, contract, version⟩ := conforms result rfl queued
  refine ⟨ids, contract, version, ?_⟩
  unfold CrossingHolds at holds
  cases phase : final.phase with
  | named named =>
      rw [phase] at holds phased
      cases phased
      exact holds
  | marked marked =>
      rw [phase] at holds phased
      cases phased
      exact holds.1
  | starting =>
      rw [phase] at phased
      cases phased
  | failed =>
      rw [phase] at phased
      cases phased

end Runs

/-! ## A deletion in between -/

section Sample

/-- What the intake has returned. -/
def CrossingState.returned? (state : CrossingState) : Option ContractProcessingResult :=
  match state.intake with
  | .done (.ok result) => some result
  | _ => none

theorem CrossingState.intake_of_returned? {state : CrossingState}
    {result : ContractProcessingResult} (returned : state.returned? = some result) :
    state.intake = .done (.ok result) := by
  unfold CrossingState.returned? at returned
  split at returned
  · rename_i stands
    cases returned
    exact stands
  · cases returned

def heldLease : NewContract where
  workspaceId := "legal"
  emailThreadId := "samvid-upload-1"
  title := "lease.pdf"
  originalFilename := "lease.pdf"
  mimeType := "application/pdf"
  sizeBytes := 10
  sha256 := "b2"
  objectKey := "contracts/legal/b2/b2.pdf"
  uploadedBy := "ana@example.com"

def heldIds : Uuid × Uuid :=
  (⟨0, 0⟩, ⟨0, 1⟩)

/-- The lease has been reviewed. -/
def heldWorld : ObjectWorld where
  review := {
    database := match (default : ReviewDatabase).insertContract ⟨0, 0⟩ heldLease with
      | .ok (ids, database) => database.updateContractStatus ids.1 .reviewReady
      | .error _ => default
    calls := 1 }
  objects := ["contracts/legal/b2/b2.pdf"]

/-- The same file is uploaded again. -/
def leaseUpload : IntakeRequest where
  workspaceId := "legal"
  emailThreadId := "samvid-upload-2"
  requestedBy := "ana@example.com"
  displayFilename := "lease.pdf"

/-- The intake up to the lookup. -/
def lookingUp : List CrossingEvent :=
  [.intake (.validated {
      ok := true, mimeType := some "application/pdf", sha256 := some "b2", sizeBytes := 10 }),
    .intake (.stored "contracts/legal/b2/b2.pdf"), .intake .proceed]

def deletingLease : List CrossingEvent :=
  [.deletion (.lock "legal" heldIds.1), .deletion .deleteObject, .deletion .commit]

/-- The intake from the lookup on. -/
def queueingUp : List CrossingEvent :=
  List.replicate 9 (.intake .proceed)

def crossLease (events : List CrossingEvent) :
    Option (List CrossingStep × CrossingState) :=
  EventStep.execute CrossingState.next? [] (.start heldWorld leaseUpload) events

theorem refusedDeletion_isSome :
    (crossLease (lookingUp ++ queueingUp ++ [.deletion (.lock "legal" heldIds.1)])).isSome := by
  decide

theorem crossingDeletion_isSome :
    (crossLease (lookingUp ++ deletingLease ++ queueingUp)).isSome := by
  decide

def refusedDeletion : List CrossingStep × CrossingState :=
  (crossLease _).get refusedDeletion_isSome

def crossingDeletion : List CrossingStep × CrossingState :=
  (crossLease _).get crossingDeletion_isSome

/-- The queued answer of the intake names the lease. -/
def answersLease (state : CrossingState) : Bool :=
  state.returned?.any fun result =>
    result.status = .queued && result.contractId = some heldIds.1 &&
      result.contractVersionId = some heldIds.2

theorem answersLease_spec {state : CrossingState} (answers : answersLease state = true) :
    ∃ result, state.intake = .done (.ok result) ∧ result.status = .queued ∧
      result.contractId = some heldIds.1 ∧ result.contractVersionId = some heldIds.2 := by
  obtain ⟨result, returned, named⟩ := (Option.any_eq_true _ _).mp answers
  simp only [Bool.and_eq_true, decide_eq_true_eq] at named
  exact ⟨result, CrossingState.intake_of_returned? returned, named.1.1, named.1.2, named.2⟩

theorem queued_intact_iff_sample :
    ∃ result, refusedDeletion.2.intake = .done (.ok result) ∧
      ∃ ids : Uuid × Uuid, result.contractId = some ids.1 ∧
        result.contractVersionId = some ids.2 ∧
        (refusedDeletion.2.world.Intact ids ↔
          ∀ step ∈ refusedDeletion.1, step.Spared) := by
  obtain ⟨result, returned, queued, _⟩ :=
    (answersLease_spec (by decide) : ∃ result,
      refusedDeletion.2.intake = .done (.ok result) ∧ _)
  exact ⟨result, returned, queued_intact_iff
    (EventStep.run_of_execute .nil (Option.some_get refusedDeletion_isSome).symm)
    returned queued⟩

/-- The lease is there before both calls, the upload is answered `QUEUED`, and nothing of
the lease is left after both. -/
theorem queued_lost_to_deletion :
    heldWorld.database.Holds ("legal", "b2") heldIds ∧ heldWorld.Intact heldIds ∧
      CrossingRun heldWorld leaseUpload crossingDeletion.1 crossingDeletion.2 ∧
      (∃ result, crossingDeletion.2.intake = .done (.ok result) ∧ result.status = .queued ∧
        result.contractId = some heldIds.1 ∧
        result.contractVersionId = some heldIds.2) ∧
      crossingDeletion.2.world.deletion = none ∧
      ¬ crossingDeletion.2.world.Intact heldIds := by
  refine ⟨by decide, by decide, ?_, ?_, by decide,
    by decide⟩
  · exact EventStep.run_of_execute .nil (Option.some_get crossingDeletion_isSome).symm
  · exact answersLease_spec (by decide)

end Sample

end ContractMate
