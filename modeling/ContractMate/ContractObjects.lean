import ContractMate.ContractContent
import ContractMate.ReviewCalls

/-!
# Contracts and their objects

The database beside the object store.  Calls of intake and worker read and write both;
a `delete_contract` transaction holds the contract's row from its checks on, deletes the
objects one by one and then commits, or rolls back and leaves the rows.
-/

namespace ContractMate

/-- A `delete_contract` transaction that has passed its checks, with the objects it still
has to delete. -/
structure Deletion where
  workspaceId : String
  contractId : Uuid
  keys : List String
deriving DecidableEq, Repr

/-- Database, object store, and the transaction that holds a contract's row. -/
structure ObjectWorld where
  review : ReviewWorld
  objects : List String := []
  deletion : Option Deletion := none

namespace ObjectWorld

variable (world : ObjectWorld)

abbrev database : ReviewDatabase :=
  world.review.database

/-- A writer of the contract's row has to wait. -/
def locks (contractId : Uuid) : Bool :=
  world.deletion.any fun deletion => deletion.contractId = contractId

def blocks : ReviewCall → Bool
  | .database (.updateContractStatus contractId _) => world.locks contractId
  | .database (.finalizeContractReview _ contractId _ _ _) => world.locks contractId
  | _ => false

/-- The objects after a call. -/
def objectsAfter : Choice → ReviewCall → List String
  | .stored objectKey, .external (.storeContractFile _ _) => world.objects.insert objectKey
  | _, _ => world.objects

/-- A call of intake or worker. -/
def respond : Prog.Respond ReviewCall ReviewCall.Ret Exn ObjectWorld Choice :=
  fun choice world request =>
    if world.blocks request then none
    else
      (ReviewWorld.respond 0 choice world.review request).map fun answer =>
        (answer.1, { world with
          review := answer.2, objects := world.objectsAfter choice request })

/-- The object of a version is in the store. -/
def Stored (versionId : Uuid) : Prop :=
  ∃ version, world.database.versions.find? versionId = some version ∧
    version.objectKey ∈ world.objects

/-- The contract and the version are there, and so is the version's object. -/
def Intact (ids : Uuid × Uuid) : Prop :=
  (world.database.contracts.find? ids.1).isSome = true ∧
    ∃ version, world.database.versions.find? ids.2 = some version ∧
      version.contractId = ids.1 ∧ version.objectKey ∈ world.objects

theorem intact_iff_any {ids : Uuid × Uuid} :
    ((world.database.contracts.find? ids.1).isSome &&
      (world.database.versions.find? ids.2).any fun version =>
        version.contractId = ids.1 && decide (version.objectKey ∈ world.objects)) = true ↔
      world.Intact ids := by
  simp only [Intact, Bool.and_eq_true, Option.any_eq_true, decide_eq_true_eq]

instance {ids : Uuid × Uuid} : Decidable (world.Intact ids) :=
  decidable_of_iff _ world.intact_iff_any

end ObjectWorld

/-! ## Deleting -/

/-- What a `delete_contract` call does next. -/
inductive DeletionEvent where
  /-- `SELECT … FOR UPDATE`, the checks, and the keys of the versions. -/
  | lock (workspaceId : String) (contractId : Uuid)
  /-- The next object is deleted, or was gone already. -/
  | deleteObject
  /-- The rows are deleted and the transaction commits. -/
  | commit
  /-- The object store or the database raises. -/
  | rollback

def DeletionEvent.after? (world : ObjectWorld) : DeletionEvent → Option ObjectWorld
  | lock workspaceId contractId =>
      match world.deletion, world.database.deletable workspaceId contractId with
      | none, .ok _ =>
          some { world with
            deletion := some {
              workspaceId, contractId, keys := world.database.objectKeys contractId } }
      | none, .error _ => some world
      | some _, _ => none
  | deleteObject =>
      match world.deletion with
      | some ⟨workspaceId, contractId, key :: keys⟩ =>
          some { world with
            objects := world.objects.filter fun object => object ≠ key
            deletion := some ⟨workspaceId, contractId, keys⟩ }
      | _ => none
  | commit =>
      match world.deletion with
      | some ⟨workspaceId, contractId, []⟩ =>
          some { world with
            review := { world.review with
              database := world.database.deleteRows workspaceId contractId }
            deletion := none }
      | _ => none
  | rollback => world.deletion.map fun _ => { world with deletion := none }

/-! ## What calls leave -/

/-- The call writes no contract and no version. -/
def ReviewCall.sparesContracts : ReviewCall → Prop
  | .database (.insertContract _) => False
  | .database (.updateContractStatus _ _) => False
  | .database (.finalizeContractReview _ _ _ _ _) => False
  | _ => True

theorem DatabaseCall.spares_of_body {call : DatabaseCall} {stamp : Stamp}
    {database after : ReviewDatabase} {value : call.Ret}
    (spares : (ReviewCall.database call).sparesContracts)
    (ran : call.body stamp database = .ok (value, after)) :
    after.contracts = database.contracts ∧ after.versions = database.versions := by
  cases call with
  | insertContract contract => exact spares.elim
  | updateContractStatus contractId status => exact spares.elim
  | finalizeContractReview workspaceId contractId versionId review status =>
      exact spares.elim
  | insertRun workspaceId contractId versionId source jobId =>
      simp only [body, ReviewDatabase.insertRun] at ran
      split at ran
      · cases ran
        exact ⟨rfl, rfl⟩
      · cases ran
  | _ =>
      cases ran
      exact ⟨rfl, rfl⟩

theorem ReviewDatabase.spares_of_slackBody {call : SlackCall} {stamp : Stamp}
    {database after : ReviewDatabase} {value : call.Ret}
    (ran : database.slackBody stamp call = .ok (value, after)) :
    after.contracts = database.contracts ∧ after.versions = database.versions := by
  unfold slackBody at ran
  cases result : call.body stamp database.slack with
  | error error =>
      rw [result] at ran
      cases ran
  | ok answer =>
      rw [result] at ran
      cases ran
      exact ⟨rfl, rfl⟩

namespace ObjectWorld

section Answers

variable {world after : ObjectWorld} {choice : Choice} {request : ReviewCall}
  {reply : Except Exn request.Ret}

theorem respond_eq_some (answered : respond choice world request = some (reply, after)) :
    world.blocks request = false ∧
      ReviewWorld.respond 0 choice world.review request = some (reply, after.review) ∧
      after.objects = world.objectsAfter choice request ∧
      after.deletion = world.deletion := by
  unfold respond at answered
  split at answered
  · cases answered
  · rename_i free
    obtain ⟨answer, reviewed, same⟩ := Option.map_eq_some_iff.mp answered
    cases same
    exact ⟨by simpa using free, reviewed, rfl, rfl⟩

theorem contracts_of_respond (spares : request.sparesContracts)
    (answered : respond choice world request = some (reply, after)) :
    after.database.contracts = world.database.contracts ∧
      after.database.versions = world.database.versions := by
  obtain ⟨_, reviewed, _, _⟩ := respond_eq_some answered
  cases request with
  | slack call =>
      rcases (ReviewWorld.respond_slack reviewed).2 with ⟨value, _, ran⟩ | ⟨_, same⟩
      · exact ReviewDatabase.spares_of_slackBody ran
      · exact ⟨congrArg _ same, congrArg _ same⟩
  | database call =>
      rcases (ReviewWorld.respond_database reviewed).2 with ⟨value, _, ran⟩ | ⟨_, same⟩
      · exact DatabaseCall.spares_of_body spares ran
      · exact ⟨congrArg _ same, congrArg _ same⟩
  | external call =>
      have same := congrArg ReviewWorld.database (ReviewWorld.respond_external reviewed).1
      exact ⟨congrArg _ same, congrArg _ same⟩

theorem objects_of_respond (unlike : ∀ workspaceId sha256,
      request ≠ .external (.storeContractFile workspaceId sha256))
    (answered : respond choice world request = some (reply, after)) :
    after.objects = world.objects := by
  rw [(respond_eq_some answered).2.2.1]
  unfold objectsAfter
  split
  · exact absurd rfl (unlike _ _)
  · rfl

end Answers

/-! ## What stays intact -/

section Intact

variable {world after : ObjectWorld} {ids : Uuid × Uuid} {workspaceId : String}
  {contractId : Uuid} {key : String} {keys : List String}

theorem intact_congr
    (contracts : (after.database.contracts.find? ids.1).isSome =
      (world.database.contracts.find? ids.1).isSome)
    (versions : after.database.versions = world.database.versions)
    (objects : after.objects = world.objects) :
    after.Intact ids ↔ world.Intact ids := by
  unfold Intact
  rw [contracts, versions, objects]

/-- Deleting an object costs the versions that name it theirs. -/
theorem intact_filter (review : ReviewWorld) (deletion : Option Deletion)
    (same : review.database = world.database) :
    ({ review, objects := world.objects.filter fun object => object ≠ key,
       deletion } : ObjectWorld).Intact ids ↔
      world.Intact ids ∧ ∀ version, world.database.versions.find? ids.2 = some version →
        version.objectKey ≠ key := by
  unfold Intact
  simp only [database] at same ⊢
  simp only [same, List.mem_filter, decide_eq_true_eq]
  constructor
  · rintro ⟨contract, version, found, owner, stored, other⟩
    refine ⟨⟨contract, version, found, owner, stored⟩, ?_⟩
    intro same named
    rw [found] at named
    cases named
    exact other
  · rintro ⟨⟨contract, version, found, owner, stored⟩, other⟩
    exact ⟨contract, version, found, owner, stored, other version found⟩

/-- Deleting the rows costs the contract its own and no other one. -/
theorem intact_deleteRows (review : ReviewWorld) (deletion : Option Deletion)
    (deleted : review.database = world.database.deleteRows workspaceId contractId) :
    ({ review, objects := world.objects, deletion } : ObjectWorld).Intact ids ↔
      world.Intact ids ∧ contractId ≠ ids.1 := by
  unfold Intact
  simp only [database] at deleted ⊢
  simp only [deleted, ReviewDatabase.find?_contracts_deleteRows,
    ReviewDatabase.find?_versions_deleteRows, Option.filter_eq_some_iff]
  constructor
  · rintro ⟨contract, version, ⟨found, spared⟩, owner, stored⟩
    have other : contractId ≠ ids.1 := by
      rintro rfl
      simp [owner] at spared
    obtain ⟨row, kept⟩ := Option.isSome_iff_exists.mp contract
    rw [Option.filter_eq_some_iff] at kept
    exact ⟨⟨Option.isSome_iff_exists.mpr ⟨row, kept.1⟩, version, found, owner, stored⟩,
      other⟩
  · rintro ⟨⟨contract, version, found, owner, stored⟩, other⟩
    obtain ⟨row, kept⟩ := Option.isSome_iff_exists.mp contract
    refine ⟨?_, version, ⟨found, ?_⟩, owner, stored⟩
    · rw [kept, Option.filter_some, if_pos]
      · rfl
      · simp [RowTable.key_of_find? kept, other.symm]
    · simp [owner, other.symm]

end Intact

end ObjectWorld

/-! ## What a deletion does -/

/-- What an event of a deletion can do. -/
inductive DeletionEvent.Moves (world : ObjectWorld) : DeletionEvent → ObjectWorld → Prop
  | locked {workspaceId : String} {contractId : Uuid} {row : ContractRow}
      (free : world.deletion = none)
      (deletable : world.database.deletable workspaceId contractId = .ok row) :
      Moves world (.lock workspaceId contractId)
        { world with
          deletion := some {
            workspaceId, contractId, keys := world.database.objectKeys contractId } }
  | refused {workspaceId : String} {contractId : Uuid} (free : world.deletion = none) :
      Moves world (.lock workspaceId contractId) world
  | deleted {workspaceId : String} {contractId : Uuid} {key : String} {keys : List String}
      (underway : world.deletion = some ⟨workspaceId, contractId, key :: keys⟩) :
      Moves world .deleteObject
        { world with
          objects := world.objects.filter fun object => object ≠ key
          deletion := some ⟨workspaceId, contractId, keys⟩ }
  | committed {workspaceId : String} {contractId : Uuid}
      (underway : world.deletion = some ⟨workspaceId, contractId, []⟩) :
      Moves world .commit
        { world with
          review := { world.review with
            database := world.database.deleteRows workspaceId contractId }
          deletion := none }
  | rolledBack : Moves world .rollback { world with deletion := none }

theorem DeletionEvent.moves_of_after? {world after : ObjectWorld} {event : DeletionEvent}
    (happens : event.after? world = some after) : event.Moves world after := by
  cases event with
  | lock workspaceId contractId =>
      simp only [after?] at happens
      split at happens
      · rename_i free deletable
        cases happens
        exact .locked free deletable
      · rename_i free refused
        cases happens
        exact .refused free
      · cases happens
  | deleteObject =>
      simp only [after?] at happens
      split at happens
      · rename_i underway
        cases happens
        exact .deleted underway
      · cases happens
  | commit =>
      simp only [after?] at happens
      split at happens
      · rename_i underway
        cases happens
        exact .committed underway
      · cases happens
  | rollback =>
      obtain ⟨deletion, underway, rfl⟩ := Option.map_eq_some_iff.mp happens
      exact .rolledBack

/-- A contract that is being processed cannot be deleted. -/
theorem ReviewDatabase.deletable_ok {database : ReviewDatabase} {workspaceId : String}
    {contractId : Uuid} {row : ContractRow}
    (deletable : database.deletable workspaceId contractId = .ok row) :
    database.contracts.find? contractId = some row ∧ row.workspaceId = workspaceId ∧
      row.status.activeProcessing = false := by
  unfold ReviewDatabase.deletable at deletable
  cases locked : database.lockedContract workspaceId contractId with
  | none =>
      rw [locked] at deletable
      cases deletable
  | some contract =>
      rw [locked] at deletable
      simp only at deletable
      split_ifs at deletable with active
      cases deletable
      obtain ⟨found, workspace⟩ := Option.filter_eq_some_iff.mp locked
      exact ⟨found, of_decide_eq_true workspace, by simpa using active⟩

end ContractMate
