import ContractMate.ContractContent
import ContractMate.ContractIntake
import ContractMate.ProgramPool

/-!
# One contract per content

`create_contract_with_version` looks for a contract with the same content and inserts one
when it finds none, without a lock or a constraint.  Under `READ COMMITTED` the lookup
sees what is committed when it runs, and the two inserts appear together when they are
committed.  Contents stay unique if no call inserts what another one has inserted since
its own lookup.
-/

namespace ContractMate

/-- The database, and the calls that have drawn identifiers. -/
structure ContentWorld where
  database : ReviewDatabase
  drawn : List Nat := []

instance : Inhabited ContentWorld := ⟨⟨default, []⟩⟩

/-- How a lookup, or the block of the inserts, comes out. -/
inductive CreationChoice where
  | proceed (stamp : Stamp)
  | lost (stamp : Stamp) (error : Exn)
  | raised (error : Exn)

/-- The draw of a block that may commit. -/
def CreationChoice.stamp? : CreationChoice → Option Stamp
  | proceed stamp | lost stamp _ => some stamp
  | raised _ => none

namespace ContentWorld

variable (world : ContentWorld)

def find (workspaceId sha256 : String) :
    CreationChoice → Option (Except Exn (Option (Uuid × Uuid)) × ContentWorld)
  | .proceed _ => some (.ok (world.database.findContract workspaceId sha256), world)
  | .raised error => some (.error error, world)
  | .lost _ _ => none

/-- The block under fresh identifiers. -/
def insert (stamp : Stamp) (contract : NewContract) :
    Option (Except Exn (Uuid × Uuid) × ContentWorld) :=
  if stamp.call ∈ world.drawn then none
  else
    match world.database.insertContract stamp contract with
    | .ok (ids, database) =>
        some (.ok ids, { database, drawn := stamp.call :: world.drawn })
    | .error error => some (.error error, world)

def create (contract : NewContract) :
    CreationChoice → Option (Except Exn (Uuid × Uuid) × ContentWorld)
  | .proceed stamp => world.insert stamp contract
  | .lost stamp error =>
      (world.insert stamp contract).map fun answer => (.error error, answer.2)
  | .raised error => some (.error error, world)

def respond :
    Prog.Respond ReviewCall ReviewCall.Ret Exn ContentWorld CreationChoice :=
  fun choice world request =>
    match request with
    | .database (.findContract workspaceId sha256) => world.find workspaceId sha256 choice
    | .database (.insertContract contract) => world.create contract choice
    | _ => none

end ContentWorld

/-- What else happens to the contracts. -/
inductive ContractEvent where
  | updateStatus (contractId : Uuid) (status : WorkflowState)
  | delete (workspaceId : String) (contractId : Uuid)

def ContractEvent.after (world : ContentWorld) : ContractEvent → ContentWorld
  | updateStatus contractId status =>
      { world with database := world.database.updateContractStatus contractId status }
  | delete workspaceId contractId =>
      match world.database.deleteContract workspaceId contractId with
      | .ok database => { world with database }
      | .error _ => world

/-- Concurrent calls of `create_contract_with_version`. -/
def contractCreations :
    PoolSystem NewContract ReviewCall ReviewCall.Ret Exn (Uuid × Uuid) ContentWorld
      CreationChoice ContractEvent where
  body := createContractWithVersion
  respond := fun _ => ContentWorld.respond
  outside := fun event world => some (event.after world)

abbrev CreationStep :=
  PoolStep NewContract ReviewCall ReviewCall.Ret Exn (Uuid × Uuid) ContentWorld
    CreationChoice ContractEvent

abbrev CreationState :=
  PoolState NewContract ReviewCall ReviewCall.Ret Exn (Uuid × Uuid) ContentWorld

abbrev CreationAnswer :=
  PoolAnswer NewContract ReviewCall ReviewCall.Ret Exn ContentWorld CreationChoice

/-! ## What calls do -/

/-- The identifiers with which a call returns, for its content. -/
def returnedIds? : CreationAnswer → Option (ContentKey × (Uuid × Uuid))
  | ⟨_, contract, .database (.findContract _ _), _, .ok (some ids), _, _⟩ =>
      some (contract.content, ids)
  | ⟨_, contract, .database (.insertContract _), _, .ok ids, _, _⟩ =>
      some (contract.content, ids)
  | _ => none

/-- A block of inserts that commits: its content, and the new version. -/
def insertedVersion? : CreationAnswer → Option (ContentKey × Uuid)
  | ⟨_, _, .database (.insertContract contract), choice, _, before, _⟩ =>
      choice.stamp?.bind fun stamp =>
        if (before.database.insertContract stamp contract).isOk then
          some (contract.content, stamp.uuid4 1)
        else none
  | _ => none

/-- The lookup of a call. -/
def looksUp : ReviewCall → Bool
  | .database (.findContract _ _) => true
  | _ => false

/-- The versions with some content that are inserted after the last lookup of a thread. -/
def followRivals (thread : Nat) (content : ContentKey) (since : List Uuid)
    (step : CreationStep) : List Uuid :=
  match contractCreations.answer? step with
  | some answer =>
      if answer.thread = thread ∧ looksUp answer.request then []
      else
        match insertedVersion? answer with
        | some (other, versionId) =>
            if other = content then since ++ [versionId] else since
        | none => since
  | none => since

def rivals (thread : Nat) (content : ContentKey) (steps : List CreationStep) :
    List Uuid :=
  steps.foldl (followRivals thread content) []

/-- No workspace holds a content twice, and a call that returns while the contract of an
earlier return for the same content exists returns the same. -/
structure OneContract (steps : List CreationStep) (final : CreationState) : Prop where
  unique : ∀ (content : ContentKey) (first second : Uuid × Uuid),
    final.world.database.Holds content first →
      final.world.database.Holds content second → first.1 = second.1
  agree : ∀ (i j : Nat) (first second : CreationStep) (earlier later : CreationAnswer)
      (content : ContentKey) (ids others : Uuid × Uuid), i ≤ j →
    steps[i]? = some first → contractCreations.answer? first = some earlier →
      returnedIds? earlier = some (content, ids) →
    steps[j]? = some second → contractCreations.answer? second = some later →
      returnedIds? later = some (content, others) →
    (later.after.database.contracts.find? ids.1).isSome = true → others = ids

/-- When a call inserts, no version with its workspace and content is there that was
inserted after its own lookup. -/
def InsertsUnrivalled (steps : List CreationStep) : Prop :=
  ∀ (i : Nat) (step : CreationStep) (answer : CreationAnswer) (content : ContentKey)
      (versionId : Uuid), steps[i]? = some step →
    contractCreations.answer? step = some answer →
    insertedVersion? answer = some (content, versionId) →
    ∀ rival ∈ rivals answer.thread content (steps.take i),
      answer.before.database.versions.find? rival = none

/-! ## Phases -/

inductive CreationPhase where
  | looking (contract : NewContract)
  | inserting (contract : NewContract)
  | finished

namespace CreationPhase

def permits : CreationPhase → ReviewCall → Prop
  | looking contract, .database (.findContract workspaceId sha256) =>
      (workspaceId, sha256) = contract.content
  | inserting contract, .database (.insertContract inserted) => inserted = contract
  | _, _ => False

def next : CreationPhase → (request : ReviewCall) →
    Except Exn request.Ret → CreationPhase
  | looking contract, .database (.findContract _ _), .ok none => inserting contract
  | _, _, _ => finished

/-- The phase is one of the contract's. -/
def Of (contract : NewContract) : CreationPhase → Prop
  | looking own | inserting own => own = contract
  | finished => True

theorem Of.next {contract : NewContract} {phase : CreationPhase} (own : phase.Of contract)
    (request : ReviewCall) (reply : Except Exn request.Ret) :
    (phase.next request reply).Of contract := by
  unfold CreationPhase.next
  split
  · exact own
  · trivial

end CreationPhase

abbrev creationMonitor : Monitor ReviewCall ReviewCall.Ret Exn :=
  .deterministic CreationPhase.permits CreationPhase.next

theorem conforms_createContractWithVersion (contract : NewContract) :
    creationMonitor.Conforms (createContractWithVersion contract) (fun _ _ => True)
      (.looking contract) := by
  refine ⟨rfl, ?_⟩
  rintro reply after rfl
  cases reply with
  | error error => trivial
  | ok existing =>
      cases existing with
      | some ids => trivial
      | none =>
          refine ⟨rfl, ?_⟩
          rintro reply after rfl
          trivial

/-! ## What the calls keep -/

namespace ContentWorld

variable {world after : ContentWorld} {choice : CreationChoice}

theorem find_cases {workspaceId sha256 : String}
    {reply : Except Exn (Option (Uuid × Uuid))}
    (finds : world.find workspaceId sha256 choice = some (reply, after)) :
    after = world ∧ ∀ found, reply = .ok found →
      world.database.findContract workspaceId sha256 = found := by
  cases choice with
  | proceed stamp =>
      cases finds
      exact ⟨rfl, fun found same => Except.ok.inj same⟩
  | raised error =>
      cases finds
      exact ⟨rfl, nofun⟩
  | lost stamp error => cases finds

/-- A block of inserts commits, or leaves the world as it was. -/
theorem create_cases {contract : NewContract} {reply : Except Exn (Uuid × Uuid)}
    (creates : world.create contract choice = some (reply, after)) :
    (after = world ∧ ∃ error, reply = .error error) ∨
      ∃ stamp ids database, choice.stamp? = some stamp ∧ stamp.call ∉ world.drawn ∧
        world.database.insertContract stamp contract = .ok (ids, database) ∧
        after = { database, drawn := stamp.call :: world.drawn } ∧
        ∀ returned, reply = .ok returned → returned = ids := by
  have inserts {stamp : Stamp} {result : Except Exn (Uuid × Uuid)}
      (inserted : world.insert stamp contract = some (result, after)) :
      (after = world ∧ ∃ error, result = .error error) ∨
        ∃ ids database, stamp.call ∉ world.drawn ∧
          world.database.insertContract stamp contract = .ok (ids, database) ∧
          after = { database, drawn := stamp.call :: world.drawn } ∧ result = .ok ids := by
    unfold insert at inserted
    split at inserted
    · cases inserted
    · rename_i fresh
      split at inserted
      · rename_i ids database success
        cases inserted
        exact .inr ⟨ids, database, fresh, success, rfl, rfl⟩
      · rename_i error _
        cases inserted
        exact .inl ⟨rfl, error, rfl⟩
  cases choice with
  | proceed stamp =>
      rcases inserts creates with kept | ⟨ids, database, fresh, success, same, rfl⟩
      · exact .inl kept
      · exact .inr ⟨stamp, ids, database, rfl, fresh, success, same,
          fun returned equal => (Except.ok.inj equal).symm⟩
  | lost stamp error =>
      obtain ⟨⟨result, left⟩, inserted, equal⟩ := Option.map_eq_some_iff.mp creates
      cases equal
      rcases inserts inserted with ⟨same, _⟩ | ⟨ids, database, fresh, success, same, _⟩
      · exact .inl ⟨same, error, rfl⟩
      · exact .inr ⟨stamp, ids, database, rfl, fresh, success, same, nofun⟩
  | raised error =>
      cases creates
      exact .inl ⟨rfl, error, rfl⟩

end ContentWorld

section Runs

variable {steps : List CreationStep} {final : CreationState} {step : CreationStep}
  {thread : Nat} {content : ContentKey} {rival : Uuid}

theorem rivals_concat :
    rivals thread content (steps ++ [step]) =
      followRivals thread content (rivals thread content steps) step := by
  simp [rivals, List.foldl_append]

/-- Rivals stay rivals until the next lookup. -/
theorem mem_rivals_concat (member : rival ∈ rivals thread content steps)
    (silent : ∀ answer, contractCreations.answer? step = some answer →
      ¬ (answer.thread = thread ∧ looksUp answer.request = true)) :
    rival ∈ rivals thread content (steps ++ [step]) := by
  rw [rivals_concat, followRivals]
  cases answered : contractCreations.answer? step with
  | none => exact member
  | some answer =>
      simp only [if_neg (silent answer answered)]
      split
      · split_ifs
        · exact List.mem_append_left _ member
        · exact member
      · exact member

/-- The phase of a thread. -/
abbrev creationPhase (thread : Nat) (steps : List CreationStep) : Option CreationPhase :=
  contractCreations.tracked .looking CreationPhase.next thread steps

theorem conforms_of_creations (run : contractCreations.Run default steps final)
    {running : PoolThread NewContract ReviewCall ReviewCall.Ret Exn (Uuid × Uuid)}
    (stands : final.threads thread = some running) :
    ∃ phase, creationPhase thread steps = some phase ∧
      creationMonitor.Conforms running.rest (fun _ _ => True) phase ∧
      phase.Of running.task := by
  apply PoolSystem.phases_of_run
    (fun contract rest phase =>
      creationMonitor.Conforms rest (fun _ _ => True) phase ∧ phase.Of contract) _ _ run
    stands
  · intro contract
    exact ⟨conforms_createContractWithVersion contract, rfl⟩
  · rintro contract request rest phase reply ⟨conforms, own⟩
    exact ⟨conforms.2 reply _ rfl, own.next request reply⟩

/-- A content is held once, a call about to insert knows who holds its content, and the
contract of a return holds its content as long as it exists. -/
structure CreationsSound (steps : List CreationStep) (final : CreationState) : Prop where
  drawn : ∀ row ∈ final.world.database.contracts.rows, row.id.call ∈ final.world.drawn
  owned : final.world.database.Owned
  unique : ∀ content first second, final.world.database.Holds content first →
    final.world.database.Holds content second → first = second
  inserting : ∀ thread contract, creationPhase thread steps = some (.inserting contract) →
    ∀ ids, final.world.database.Holds contract.content ids →
      ids.2 ∈ rivals thread contract.content steps
  returned : ∀ step ∈ steps, ∀ answer content ids,
    contractCreations.answer? step = some answer →
      returnedIds? answer = some (content, ids) → ids.1.call ∈ final.world.drawn ∧
        ((final.world.database.contracts.find? ids.1).isSome = true →
          final.world.database.Holds content ids)

namespace CreationsSound

variable {before : CreationState} {world : ContentWorld}

variable
  {threads : Nat → Option (PoolThread NewContract ReviewCall ReviewCall.Ret Exn (Uuid × Uuid))}

/-- A step at which no call is answered, and nobody comes to hold anything. -/
theorem silent {event : PoolEvent NewContract CreationChoice ContractEvent}
    (sound : CreationsSound steps before)
    (unanswered : contractCreations.answer? ⟨event, before⟩ = none)
    (drawn : world.drawn = before.world.drawn)
    (fewer : ∀ row ∈ world.database.contracts.rows,
      ∃ old ∈ before.world.database.contracts.rows, old.id = row.id)
    (owned : world.database.Owned)
    (holds : ∀ content ids, world.database.Holds content ids →
      before.world.database.Holds content ids)
    (kept : ∀ content ids, (world.database.contracts.find? ids.1).isSome = true →
      before.world.database.Holds content ids → world.database.Holds content ids)
    (phases : ∀ thread contract,
      creationPhase thread (steps ++ [⟨event, before⟩]) = some (.inserting contract) →
        creationPhase thread steps = some (.inserting contract)) :
    CreationsSound (steps ++ [⟨event, before⟩]) ⟨world, threads⟩ where
  drawn := by
    intro row member
    obtain ⟨old, stored, same⟩ := fewer row member
    rw [drawn, ← same]
    exact sound.drawn old stored
  owned := owned
  unique := fun content first second one other =>
    sound.unique content first second (holds content first one)
      (holds content second other)
  inserting := by
    intro thread contract phase ids held
    apply mem_rivals_concat
    · exact sound.inserting thread contract (phases thread contract phase) ids
        (holds _ ids held)
    · intro answer answered
      rw [unanswered] at answered
      cases answered
  returned := by
    intro step member answer content ids answered returns
    rcases List.mem_append.mp member with earlier | last
    · obtain ⟨known, held⟩ := sound.returned step earlier answer content ids answered returns
      refine ⟨drawn ▸ known, ?_⟩
      intro present
      obtain ⟨row, found⟩ := Option.isSome_iff_exists.mp present
      obtain ⟨old, stored, same⟩ := fewer row (RowTable.mem_of_find? found)
      have here : old.id = ids.1 := same.trans (RowTable.key_of_find? found)
      have found := RowTable.find?_of_mem stored
      rw [here] at found
      exact kept content ids present (held (Option.isSome_iff_exists.mpr ⟨old, found⟩))
    · obtain rfl := List.mem_singleton.mp last
      rw [unanswered] at answered
      cases answered

/-- An answered call that leaves the world as it was. -/
theorem unchanged {caller : Nat} {choice : CreationChoice} {answer : CreationAnswer}
    (sound : CreationsSound steps before)
    (answered : contractCreations.answer? ⟨.call caller choice, before⟩ = some answer)
    (own : answer.thread = caller)
    (inserting : ∀ contract, creationPhase caller (steps ++ [⟨.call caller choice, before⟩]) =
      some (.inserting contract) →
        ∀ ids, ¬ before.world.database.Holds contract.content ids)
    (returned : ∀ content ids, returnedIds? answer = some (content, ids) →
      before.world.database.Holds content ids) :
    CreationsSound (steps ++ [⟨.call caller choice, before⟩])
      ⟨before.world, threads⟩ where
  drawn := sound.drawn
  owned := sound.owned
  unique := sound.unique
  inserting := by
    intro thread contract phase ids held
    by_cases same : thread = caller
    · subst same
      exact absurd held (inserting contract phase ids)
    · apply mem_rivals_concat
      · rw [creationPhase, PoolSystem.tracked_of_other nofun] at phase
        · exact sound.inserting thread contract phase ids held
        · rintro choice event
          cases event
          exact same rfl
      · rintro other answered' ⟨here, _⟩
        rw [answered, Option.some.injEq] at answered'
        subst answered'
        exact same (here.symm.trans own)
  returned := by
    intro step member other content ids answered' returns
    rcases List.mem_append.mp member with earlier | last
    · exact sound.returned step earlier other content ids answered' returns
    · obtain rfl := List.mem_singleton.mp last
      rw [answered, Option.some.injEq] at answered'
      subst answered'
      have held := returned content ids returns
      obtain ⟨row, version, found, _⟩ := id held
      have drawn := sound.drawn row (RowTable.mem_of_find? found)
      rw [RowTable.key_of_find? found] at drawn
      exact ⟨drawn, fun _ => held⟩

/-- A block of inserts that commits while nobody holds its content. -/
theorem inserted {caller : Nat} {choice : CreationChoice} {answer : CreationAnswer}
    {contract : NewContract} {stamp : Stamp} {ids : Uuid × Uuid}
    {database : ReviewDatabase} (sound : CreationsSound steps before)
    (answered : contractCreations.answer? ⟨.call caller choice, before⟩ = some answer)
    (own : answer.thread = caller) (blind : looksUp answer.request = false)
    (inserts : insertedVersion? answer = some (contract.content, stamp.uuid4 1))
    (success : before.world.database.insertContract stamp contract = .ok (ids, database))
    (fresh : stamp.call ∉ before.world.drawn)
    (free : ∀ ids, ¬ before.world.database.Holds contract.content ids)
    (finished : ∀ contract, creationPhase caller (steps ++ [⟨.call caller choice, before⟩]) ≠
      some (.inserting contract))
    (returned : ∀ content others, returnedIds? answer = some (content, others) →
      content = contract.content ∧ others = ids) :
    CreationsSound (steps ++ [⟨.call caller choice, before⟩])
      ⟨{ database, drawn := stamp.call :: before.world.drawn }, threads⟩ := by
  have drawnIds : ids = (stamp.uuid4 0, stamp.uuid4 1) :=
    (ReviewDatabase.insertContract_ok success).1
  have holds (content : ContentKey) (others : Uuid × Uuid) :
      database.Holds content others ↔ before.world.database.Holds content others ∨
        (content = contract.content ∧ others = ids) :=
    ReviewDatabase.holds_insertContract sound.owned success
  constructor
  · intro row member
    obtain ⟨_, contracts, versions, newContract, _, rfl⟩ :=
      ReviewDatabase.insertContract_ok success
    have member : row ∈ contracts.rows := member
    rw [RowTable.rows_of_insert? newContract, List.mem_append, List.mem_singleton] at member
    rcases member with earlier | rfl
    · exact List.mem_cons_of_mem _ (sound.drawn row earlier)
    · exact List.mem_cons_self
  · exact ReviewDatabase.owned_insertContract sound.owned success
  · intro content first second one other
    rcases (holds content first).mp one with one | ⟨rfl, rfl⟩
    · rcases (holds content second).mp other with other | ⟨rfl, rfl⟩
      · exact sound.unique content first second one other
      · exact absurd one (free first)
    · rcases (holds _ second).mp other with other | ⟨_, rfl⟩
      · exact absurd other (free second)
      · rfl
  · intro thread other phase others held
    have different : thread ≠ caller := by
      rintro rfl
      exact finished other phase
    rw [creationPhase, PoolSystem.tracked_of_other nofun] at phase
    · rcases (holds other.content others).mp held with held | ⟨same, rfl⟩
      · apply mem_rivals_concat (sound.inserting thread other phase others held)
        rintro answer' answered' ⟨here, _⟩
        rw [answered, Option.some.injEq] at answered'
        subst answered'
        exact different (here.symm.trans own)
      · rw [rivals_concat, followRivals, answered]
        simp only [own, blind, inserts]
        rw [if_neg (by simp), if_pos same.symm]
        simp [drawnIds]
    · rintro choice event
      cases event
      exact different rfl
  · intro step member other content others answered' returns
    rcases List.mem_append.mp member with earlier | last
    · obtain ⟨known, held⟩ := sound.returned step earlier other content others answered'
        returns
      refine ⟨List.mem_cons_of_mem _ known, ?_⟩
      intro present
      obtain ⟨_, contracts, versions, newContract, _, rfl⟩ :=
        ReviewDatabase.insertContract_ok success
      have present : (contracts.find? others.1).isSome = true := present
      rw [RowTable.find?_insert? newContract, if_neg] at present
      · exact (holds content others).mpr (.inl (held present))
      · intro here
        rw [← here] at known
        exact fresh known
    · obtain rfl := List.mem_singleton.mp last
      rw [answered, Option.some.injEq] at answered'
      subst answered'
      obtain ⟨rfl, rfl⟩ := returned content others returns
      refine ⟨?_, fun _ => (holds _ _).mpr (.inr ⟨rfl, rfl⟩)⟩
      rw [drawnIds]
      exact List.mem_cons_self

end CreationsSound

theorem InsertsUnrivalled.init (unrivalled : InsertsUnrivalled (steps ++ [step])) :
    InsertsUnrivalled steps := by
  intro i earlier answer content versionId found answered inserts rival member
  apply unrivalled i earlier answer content versionId (RunHistory.getElem?_append found)
    answered inserts rival
  rwa [List.take_append_of_le_length
    (Nat.le_of_lt (RunHistory.lt_length_of_getElem? found))]

/-- A call keeps what has been said. -/
theorem creationsSound_of_call {before : CreationState} {caller : Nat}
    {choice : CreationChoice} {task : NewContract} {request : ReviewCall}
    {rest : Except Exn request.Ret → Prog ReviewCall ReviewCall.Ret Exn (Uuid × Uuid)}
    {reply : Except Exn request.Ret} {world : ContentWorld}
    {threads : Nat → Option
      (PoolThread NewContract ReviewCall ReviewCall.Ret Exn (Uuid × Uuid))}
    (run : contractCreations.Run default steps before)
    (sound : CreationsSound steps before)
    (unrivalled : InsertsUnrivalled (steps ++ [⟨.call caller choice, before⟩]))
    (stands : before.threads caller = some ⟨task, .call request rest⟩)
    (responds : contractCreations.respond caller choice before.world request =
      some (reply, world)) :
    CreationsSound (steps ++ [⟨.call caller choice, before⟩]) ⟨world, threads⟩ := by
  have answered := PoolSystem.answer?_of_call contractCreations stands responds
  obtain ⟨phase, tracked, conforms, own⟩ := conforms_of_creations run stands
  have moved := PoolSystem.tracked_of_answer answered tracked
  have permitted := conforms.1
  cases phase with
  | finished => cases permitted
  | looking contract =>
      obtain rfl : contract = task := own
      cases request with
      | slack call => cases permitted
      | external call => cases permitted
      | database call =>
          cases call with
          | findContract workspaceId sha256 =>
              have content : (workspaceId, sha256) = contract.content := permitted
              obtain ⟨rfl, found⟩ := ContentWorld.find_cases responds
              apply sound.unchanged answered rfl
              · intro inserting phase ids
                rw [creationPhase, moved] at phase
                cases reply with
                | error error => cases phase
                | ok existing =>
                    cases existing with
                    | some ids => cases phase
                    | none =>
                        cases phase
                        rw [← content]
                        exact ReviewDatabase.not_holds_of_findContract (found none rfl)
              · intro other ids returns
                cases reply with
                | error error => cases returns
                | ok existing =>
                    cases existing with
                    | none => cases returns
                    | some ids =>
                        cases returns
                        rw [← content]
                        exact ReviewDatabase.holds_of_findContract (found (some ids) rfl)
          | _ => cases permitted
  | inserting contract =>
      obtain rfl : contract = task := own
      cases request with
      | slack call => cases permitted
      | external call => cases permitted
      | database call =>
          cases call with
          | insertContract inserted =>
              obtain rfl : inserted = contract := permitted
              have finished (other : NewContract) :
                  creationPhase caller (steps ++ [⟨.call caller choice, before⟩]) ≠
                    some (.inserting other) := by
                rw [creationPhase, moved]
                nofun
              rcases ContentWorld.create_cases responds with ⟨rfl, error, rfl⟩ |
                ⟨stamp, ids, database, draws, fresh, success, rfl, returned⟩
              · apply sound.unchanged answered rfl
                · intro other phase
                  exact absurd phase (finished other)
                · nofun
              · have inserts : insertedVersion?
                    ⟨caller, inserted, .database (.insertContract inserted), choice, reply,
                      before.world, { database, drawn := stamp.call :: before.world.drawn }⟩ =
                      some (inserted.content, stamp.uuid4 1) := by
                  simp [insertedVersion?, draws, success, Except.isOk, Except.toBool]
                have free (others : Uuid × Uuid) :
                    ¬ before.world.database.Holds inserted.content others := by
                  intro held
                  have rival := sound.inserting caller inserted tracked others held
                  have absent := unrivalled steps.length _ _ _ _
                    List.getElem?_concat_length answered inserts others.2
                    (by rwa [List.take_left])
                  obtain ⟨_, version, _, _, present, _⟩ := held
                  rw [present] at absent
                  cases absent
                apply sound.inserted answered rfl rfl inserts success fresh free finished
                intro content others returns
                cases reply with
                | error error => cases returns
                | ok others =>
                    cases returns
                    exact ⟨rfl, returned others rfl⟩
          | _ => cases permitted

theorem creationsSound_of_run (run : contractCreations.Run default steps final)
    (unrivalled : InsertsUnrivalled steps) : CreationsSound steps final := by
  induction run with
  | nil =>
      constructor
      · intro row member
        cases member
      · rintro row member
        cases member
      · rintro _ _ _ ⟨contract, _, found, _⟩
        cases found
      · intro thread contract phase
        cases phase
      · intro step member
        cases member
  | @step steps state run last found permitted induction =>
      subst found
      have sound := induction unrivalled.init
      have moves := PoolSystem.moves_of_allowed permitted
      generalize contractCreations.after last = next at moves
      obtain ⟨event, before⟩ := last
      cases moves with
      | @start started task world vacant launched =>
          cases launched
          apply sound.silent rfl rfl (fun row member => ⟨row, member, rfl⟩) sound.owned
            (fun _ _ held => held) (fun _ _ _ held => held)
          intro thread contract phase
          rw [creationPhase, PoolSystem.tracked_concat] at phase
          simp only [PoolSystem.track] at phase
          split_ifs at phase
          · cases phase
          · exact phase
      | @stop stopping stopped stands =>
          apply sound.silent rfl rfl (fun row member => ⟨row, member, rfl⟩) sound.owned
            (fun _ _ held => held) (fun _ _ _ held => held)
          intro thread contract phase
          rwa [creationPhase, PoolSystem.tracked_of_other (by simp) (by simp)] at phase
      | @call caller choice task request rest reply world stands responds =>
          exact creationsSound_of_call run sound unrivalled stands responds
      | @outside event world happens =>
          cases happens
          have phases : ∀ thread contract,
              creationPhase thread (steps ++ [⟨.outside event, before⟩]) =
                some (.inserting contract) →
                creationPhase thread steps = some (.inserting contract) := by
            intro thread contract phase
            rwa [creationPhase, PoolSystem.tracked_of_other (by simp) (by simp)] at phase
          cases event with
          | updateStatus contractId status =>
              refine sound.silent (by rfl) (by rfl) ?_
                (ReviewDatabase.owned_updateContractStatus sound.owned status)
                (fun _ _ => (ReviewDatabase.holds_updateContractStatus status).mp)
                (fun _ _ _ => (ReviewDatabase.holds_updateContractStatus status).mpr) phases
              intro row member
              obtain ⟨old, stored, rfl⟩ := List.mem_map.mp member
              refine ⟨old, stored, ?_⟩
              split_ifs <;> rfl
          | delete workspaceId contractId =>
              simp only [ContractEvent.after]
              cases deleted : before.world.database.deleteContract workspaceId contractId with
              | error error =>
                  exact sound.silent rfl rfl (fun row member => ⟨row, member, rfl⟩)
                    sound.owned (fun _ _ held => held) (fun _ _ _ held => held) phases
              | ok database =>
                  obtain ⟨locked, rfl⟩ := ReviewDatabase.deleteContract_ok deleted
                  refine sound.silent (by rfl) (by rfl)
                    (fun row member => ⟨row, List.mem_of_mem_filter member, rfl⟩)
                    (ReviewDatabase.owned_deleteRows sound.owned)
                    (fun _ _ held => ((ReviewDatabase.holds_deleteRows_iff locked).mp held).1)
                    ?_ phases
                  intro content ids present held
                  exact (ReviewDatabase.holds_deleteRows_iff locked).mpr
                    ⟨held, (ReviewDatabase.find?_contracts_of_deleteRows locked present).2⟩

/-- The contract of a return is there when it returns. -/
theorem present_of_returned {answer : CreationAnswer} {ids : Uuid × Uuid}
    (answered : contractCreations.answer? step = some answer)
    (returns : returnedIds? answer = some (content, ids)) :
    (answer.after.database.contracts.find? ids.1).isSome = true := by
  obtain ⟨_, _, same, responds⟩ := PoolSystem.answer?_eq_some_iff.mp answered
  obtain ⟨thread, contract, request, choice, reply, before, after⟩ := answer
  simp only at same responds
  cases request with
  | slack call => cases returns
  | external call => cases returns
  | database call =>
      cases call with
      | findContract workspaceId sha256 =>
          cases reply with
          | error error => cases returns
          | ok existing =>
              cases existing with
              | none => cases returns
              | some found =>
                  cases returns
                  obtain ⟨rfl, finds⟩ := ContentWorld.find_cases responds
                  obtain ⟨row, _, present, _⟩ :=
                    @ReviewDatabase.holds_of_findContract _ (workspaceId, sha256) _
                      (finds (some ids) rfl)
                  exact Option.isSome_iff_exists.mpr ⟨row, present⟩
      | insertContract inserted =>
          cases reply with
          | error error => cases returns
          | ok found =>
              cases returns
              rcases ContentWorld.create_cases responds with ⟨_, error, absurd_⟩ |
                ⟨stamp, others, database, _, _, success, rfl, returned⟩
              · cases absurd_
              · obtain rfl := returned ids rfl
                obtain ⟨rfl, contracts, versions, newContract, _, rfl⟩ :=
                  ReviewDatabase.insertContract_ok success
                change (contracts.find? (stamp.uuid4 0)).isSome = true
                rw [RowTable.find?_insert? newContract, if_pos (by rfl)]
                rfl
      | _ => cases returns

/-- Contents stay unique while no call inserts what was inserted since its lookup. -/
theorem one_contract_of_unrivalled {steps : List CreationStep} {final : CreationState}
    (run : contractCreations.Run default steps final)
    (unrivalled : InsertsUnrivalled steps) : OneContract steps final := by
  induction run with
  | nil =>
      constructor
      · rintro _ _ _ ⟨contract, _, found, _⟩
        cases found
      · intro i j first second earlier later content ids others order found
        simp at found
  | @step steps state run last starts permitted induction =>
      have whole : contractCreations.Run default (steps ++ [last])
          (contractCreations.after last) :=
        RunHistory.Run.step run last starts permitted
      have sound := creationsSound_of_run whole unrivalled
      obtain ⟨_, agree⟩ := induction unrivalled.init
      constructor
      · intro content first second one other
        exact congrArg Prod.fst (sound.unique content first second one other)
      · intro i j first second earlier later content ids others order found answered
          returns found' answered' returns' present
        rcases RunHistory.getElem?_append_cases found' with inside | ⟨rfl, rfl⟩
        · have before := RunHistory.lt_length_of_getElem? inside
          rw [List.getElem?_append_left (by omega)] at found
          exact agree i j first second earlier later content ids others order found answered
            returns inside answered' returns' present
        · have world := PoolSystem.world_after_of_answer answered'
          have held := (sound.returned first (RunHistory.mem_of_getElem? found) earlier
            content ids answered returns).2 (by rw [world]; exact present)
          have held' := (sound.returned second (by simp) later content others answered'
            returns').2 (by rw [world]; exact present_of_returned answered' returns')
          exact sound.unique content others ids held' held

end Runs

/-! ## Two calls at once -/

section Sample

/-- What a run can check of `InsertsUnrivalled`. -/
def unrivalledInsert (steps : List CreationStep) (i : Nat) : Bool :=
  steps[i]?.all fun step =>
    (contractCreations.answer? step).all fun answer =>
      (insertedVersion? answer).all fun inserted =>
        (rivals answer.thread inserted.1 (steps.take i)).all fun rival =>
          (answer.before.database.versions.find? rival).isNone

theorem insertsUnrivalled_of_check {steps : List CreationStep}
    (checks : ∀ i < steps.length, unrivalledInsert steps i = true) :
    InsertsUnrivalled steps := by
  intro i step answer content versionId found answered inserts rival member
  have checked := checks i (RunHistory.lt_length_of_getElem? found)
  rw [unrivalledInsert, found, Option.all_some, answered, Option.all_some, inserts,
    Option.all_some, List.all_eq_true] at checked
  exact Option.isNone_iff_eq_none.mp (checked rival member)

/-- The same bytes by email and by upload. -/
def emailedOffer : NewContract where
  workspaceId := "inbox"
  emailThreadId := "email:1"
  title := "offer.pdf"
  originalFilename := "offer.pdf"
  mimeType := "application/pdf"
  sizeBytes := 10
  sha256 := "a1"
  objectKey := "contracts/inbox/a1/a1.pdf"
  uploadedBy := "ana@example.com"

def uploadedOffer : NewContract :=
  { emailedOffer with emailThreadId := "browser:1", title := "Offer.pdf" }

def sampleCreations (events : List (PoolEvent NewContract CreationChoice ContractEvent)) :
    Option (List CreationStep × CreationState) :=
  contractCreations.extend [] { world := default } events

/-- The upload looks the offer up after the email has stored it. -/
def successiveEvents : List (PoolEvent NewContract CreationChoice ContractEvent) :=
  [.start 0 emailedOffer, .call 0 (.proceed ⟨0, 0⟩), .call 0 (.proceed ⟨1, 1⟩),
    .start 1 uploadedOffer, .call 1 (.proceed ⟨2, 2⟩)]

/-- Both look the offer up before either has stored it. -/
def simultaneousEvents : List (PoolEvent NewContract CreationChoice ContractEvent) :=
  [.start 0 emailedOffer, .start 1 uploadedOffer, .call 0 (.proceed ⟨0, 0⟩),
    .call 1 (.proceed ⟨1, 1⟩), .call 0 (.proceed ⟨2, 2⟩), .call 1 (.proceed ⟨3, 3⟩)]

theorem successiveCreations_isSome : (sampleCreations successiveEvents).isSome := by
  decide

theorem simultaneousCreations_isSome : (sampleCreations simultaneousEvents).isSome := by
  decide

def successiveCreations : List CreationStep × CreationState :=
  (sampleCreations successiveEvents).get successiveCreations_isSome

def simultaneousCreations : List CreationStep × CreationState :=
  (sampleCreations simultaneousEvents).get simultaneousCreations_isSome

theorem one_contract_of_unrivalled_sample :
    successiveCreations.2.world.database.Holds ("inbox", "a1") (⟨1, 0⟩, ⟨1, 1⟩) ∧
      OneContract successiveCreations.1 successiveCreations.2 := by
  refine ⟨by decide, ?_⟩
  exact one_contract_of_unrivalled
    (PoolSystem.run_of_extend .nil (Option.some_get successiveCreations_isSome).symm)
    (insertsUnrivalled_of_check (by decide))

/-- Two calls at once leave two contracts with the same content. -/
theorem two_contracts_of_simultaneous :
    ¬ ∀ (steps : List CreationStep) (final : CreationState),
      contractCreations.Run default steps final → OneContract steps final := by
  intro one
  have run : contractCreations.Run default simultaneousCreations.1
      simultaneousCreations.2 :=
    PoolSystem.run_of_extend .nil (Option.some_get simultaneousCreations_isSome).symm
  have first : simultaneousCreations.2.world.database.Holds ("inbox", "a1")
      (⟨2, 0⟩, ⟨2, 1⟩) := by decide
  have second : simultaneousCreations.2.world.database.Holds ("inbox", "a1")
      (⟨3, 0⟩, ⟨3, 1⟩) := by decide
  have same := (one _ _ run).unique _ _ _ first second
  exact absurd same (by decide)

end Sample

end ContractMate
