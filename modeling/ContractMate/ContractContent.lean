import ContractMate.ContractDeletion
import ContractMate.StatementPatterns

/-!
# Contracts by content

`create_contract_with_version` looks a contract up by workspace and content hash.  What
the statements on contracts and versions do is said once in terms of who holds which
content.
-/

namespace ContractMate

/-- Workspace and content hash. -/
abbrev ContentKey := String × String

abbrev NewContract.content (contract : NewContract) : ContentKey :=
  (contract.workspaceId, contract.sha256)

namespace ReviewDatabase

variable {database after : ReviewDatabase} {content : ContentKey} {ids : Uuid × Uuid}
  {stamp : Stamp} {contract : NewContract}

/-- A contract of the workspace has a version with the content. -/
def Holds (database : ReviewDatabase) (content : ContentKey) (ids : Uuid × Uuid) : Prop :=
  ∃ contract version, database.contracts.find? ids.1 = some contract ∧
    contract.workspaceId = content.1 ∧ database.versions.find? ids.2 = some version ∧
      version.contractId = ids.1 ∧ version.sha256 = content.2

theorem holds_iff_any :
    ((database.contracts.find? ids.1).any fun contract =>
        contract.workspaceId = content.1 && (database.versions.find? ids.2).any fun version =>
          version.contractId = ids.1 && version.sha256 = content.2) = true ↔
      database.Holds content ids := by
  simp only [Option.any_eq_true, Bool.and_eq_true, decide_eq_true_eq]
  constructor
  · rintro ⟨contract, found, workspace, version, present, owner, own⟩
    exact ⟨contract, version, found, workspace, present, owner, own⟩
  · rintro ⟨contract, version, found, workspace, present, owner, own⟩
    exact ⟨contract, found, workspace, version, present, owner, own⟩

instance : Decidable (database.Holds content ids) :=
  decidable_of_iff _ holds_iff_any

/-- Every version belongs to a contract. -/
def Owned (database : ReviewDatabase) : Prop :=
  ∀ version ∈ database.versions.rows,
    (database.contracts.find? version.contractId).isSome = true

/-! ## Looking a contract up -/

theorem mem_matching {workspaceId sha256 : String} {version : ContractVersionRow} :
    version ∈ (database.versions.select fun version =>
        version.sha256 = sha256 &&
          (database.contracts.find? version.contractId).any fun contract =>
            contract.workspaceId = workspaceId) ↔
      version ∈ database.versions.rows ∧
        database.Holds (workspaceId, sha256) (version.contractId, version.id) := by
  rw [RowTable.select, List.mem_filter, Bool.and_eq_true, decide_eq_true_eq,
    Option.any_eq_true]
  constructor
  · rintro ⟨stored, own, contract, found, workspace⟩
    exact ⟨stored, contract, version, found, of_decide_eq_true workspace,
      RowTable.find?_of_mem stored, rfl, own⟩
  · rintro ⟨stored, contract, other, found, workspace, present, _, own⟩
    have same : other = version := by
      have here := RowTable.find?_of_mem stored
      rw [present] at here
      exact Option.some.inj here
    subst same
    exact ⟨stored, own, contract, found, decide_eq_true workspace⟩

theorem holds_of_findContract
    (found : database.findContract content.1 content.2 = some ids) :
    database.Holds content ids := by
  obtain ⟨version, first, rfl⟩ := Option.map_eq_some_iff.mp found
  exact (mem_matching.mp (mem_of_mem_orderedFirst (List.mem_of_mem_head? first))).2

theorem not_holds_of_findContract
    (absent : database.findContract content.1 content.2 = none) :
    ¬ database.Holds content ids := by
  rintro ⟨contract, version, found, workspace, present, owner, own⟩
  have stored := RowTable.mem_of_find? present
  rw [← owner] at found
  have matching := mem_matching.mpr ⟨stored, contract, version, found, workspace,
    RowTable.find?_of_mem stored, rfl, own⟩
  have none_ := List.head?_eq_none_iff.mp (Option.map_eq_none_iff.mp absent)
  rw [orderedFirst, List.take_eq_nil_iff] at none_
  rcases none_ with absurd_ | empty
  · exact absurd absurd_ (by decide)
  · rw [← List.length_eq_zero_iff, List.length_insertionSort,
      List.length_eq_zero_iff] at empty
    rw [empty] at matching
    cases matching

/-! ## Inserting a contract -/

/-- The new contract holds its content, and the others hold what they held. -/
theorem holds_insertContract (owned : database.Owned)
    (inserted : database.insertContract stamp contract = .ok (ids, after))
    {content : ContentKey} {other : Uuid × Uuid} :
    after.Holds content other ↔
      database.Holds content other ∨ (content = contract.content ∧ other = ids) := by
  obtain ⟨rfl, contracts, versions, newContract, newVersion, rfl⟩ :=
    insertContract_ok inserted
  have freshContract : database.contracts.find? (stamp.uuid4 0) = none :=
    RowTable.insert?_isSome_iff.mp (Option.isSome_iff_exists.mpr ⟨_, newContract⟩)
  have freshVersion : database.versions.find? (stamp.uuid4 1) = none :=
    RowTable.insert?_isSome_iff.mp (Option.isSome_iff_exists.mpr ⟨_, newVersion⟩)
  have contractRows := RowTable.find?_insert? newContract
  have versionRows := RowTable.find?_insert? newVersion
  constructor
  · rintro ⟨row, version, found, workspace, present, owner, own⟩
    have found : contracts.find? other.1 = some row := found
    have present : versions.find? other.2 = some version := present
    rw [contractRows] at found
    rw [versionRows] at present
    by_cases newer : (newVersionRow stamp contract).id = other.2
    · rw [if_pos newer] at present
      cases present
      have here : (newContractRow stamp contract).id = other.1 := owner
      rw [if_pos here] at found
      cases found
      exact .inr ⟨Prod.ext workspace.symm own.symm, Prod.ext here.symm newer.symm⟩
    · rw [if_neg newer] at present
      have elsewhere : (newContractRow stamp contract).id ≠ other.1 := by
        intro here
        have owner := owned version (RowTable.mem_of_find? present)
        rw [‹version.contractId = other.1›, ← here] at owner
        have freshContract : database.contracts.find? (newContractRow stamp contract).id =
          none := freshContract
        rw [freshContract] at owner
        cases owner
      rw [if_neg elsewhere] at found
      exact .inl ⟨row, version, found, workspace, present, owner, own⟩
  · rintro (⟨row, version, found, workspace, present, owner, own⟩ | ⟨rfl, rfl⟩)
    · refine ⟨row, version, ?_, workspace, ?_, owner, own⟩
      · change contracts.find? other.1 = some row
        rw [contractRows, if_neg]
        · exact found
        · rintro here
          have freshContract : database.contracts.find? (newContractRow stamp contract).id =
            none := freshContract
          rw [here, found] at freshContract
          cases freshContract
      · change versions.find? other.2 = some version
        rw [versionRows, if_neg]
        · exact present
        · rintro here
          have freshVersion : database.versions.find? (newVersionRow stamp contract).id =
            none := freshVersion
          rw [here, present] at freshVersion
          cases freshVersion
    · refine ⟨newContractRow stamp contract, newVersionRow stamp contract, ?_, rfl, ?_,
        rfl, rfl⟩
      · change contracts.find? (stamp.uuid4 0) = _
        rw [contractRows]
        exact if_pos rfl
      · change versions.find? (stamp.uuid4 1) = _
        rw [versionRows]
        exact if_pos rfl

theorem owned_insertContract (owned : database.Owned)
    (inserted : database.insertContract stamp contract = .ok (ids, after)) :
    after.Owned := by
  obtain ⟨rfl, contracts, versions, newContract, newVersion, rfl⟩ :=
    insertContract_ok inserted
  intro version member
  have member : version ∈ versions.rows := member
  rw [RowTable.rows_of_insert? newVersion, List.mem_append, List.mem_singleton] at member
  change (contracts.find? version.contractId).isSome = true
  rw [RowTable.find?_insert? newContract]
  rcases member with earlier | rfl
  · split_ifs
    · rfl
    · exact owned version earlier
  · rw [if_pos (by rfl)]
    rfl

/-! ## Deleting a contract -/

variable {workspaceId : String} {contractId : Uuid}

theorem find?_contracts_deleteRows (id : Uuid) :
    (database.deleteRows workspaceId contractId).contracts.find? id =
      (database.contracts.find? id).filter fun row =>
        !(row.workspaceId = workspaceId && row.id = contractId) :=
  RowTable.find?_deleteWhere _ _ _

theorem find?_versions_deleteRows (id : Uuid) :
    (database.deleteRows workspaceId contractId).versions.find? id =
      (database.versions.find? id).filter fun row => !decide (row.contractId = contractId) :=
  RowTable.find?_deleteWhere _ _ _

/-- A contract that is still there holds what it held. -/
theorem holds_deleteRows_iff (locked : (database.lockedContract workspaceId
    contractId).isSome = true) :
    (database.deleteRows workspaceId contractId).Holds content ids ↔
      database.Holds content ids ∧ ids.1 ≠ contractId := by
  obtain ⟨row, lockedRow⟩ := Option.isSome_iff_exists.mp locked
  obtain ⟨stored, workspace⟩ := Option.filter_eq_some_iff.mp lockedRow
  constructor
  · rintro ⟨contract, version, found, own, present, owner, sha⟩
    rw [find?_contracts_deleteRows, Option.filter_eq_some_iff] at found
    rw [find?_versions_deleteRows, Option.filter_eq_some_iff] at present
    refine ⟨⟨contract, version, found.1, own, present.1, owner, sha⟩, ?_⟩
    rintro rfl
    simpa [owner] using present.2
  · rintro ⟨⟨contract, version, found, own, present, owner, sha⟩, other⟩
    refine ⟨contract, version, ?_, own, ?_, owner, sha⟩
    · rw [find?_contracts_deleteRows, Option.filter_eq_some_iff]
      exact ⟨found, by simp [RowTable.key_of_find? found, other]⟩
    · rw [find?_versions_deleteRows, Option.filter_eq_some_iff]
      exact ⟨present, by simp [owner, other]⟩

/-- The contracts that are left were there, under other identifiers. -/
theorem find?_contracts_of_deleteRows (locked : (database.lockedContract workspaceId
    contractId).isSome = true) {id : Uuid}
    (left : ((database.deleteRows workspaceId contractId).contracts.find? id).isSome = true) :
    (database.contracts.find? id).isSome = true ∧ id ≠ contractId := by
  obtain ⟨row, found⟩ := Option.isSome_iff_exists.mp left
  rw [find?_contracts_deleteRows, Option.filter_eq_some_iff] at found
  refine ⟨Option.isSome_iff_exists.mpr ⟨row, found.1⟩, ?_⟩
  rintro rfl
  obtain ⟨locked, lockedRow⟩ := Option.isSome_iff_exists.mp locked
  obtain ⟨stored, workspace⟩ := Option.filter_eq_some_iff.mp lockedRow
  rw [stored, Option.some.injEq] at found
  obtain ⟨rfl, spared⟩ := found
  simp [RowTable.key_of_find? stored, of_decide_eq_true workspace] at spared

theorem owned_deleteRows (owned : database.Owned) :
    (database.deleteRows workspaceId contractId).Owned := by
  intro version member
  obtain ⟨stored, spared⟩ := List.mem_filter.mp member
  obtain ⟨row, found⟩ := Option.isSome_iff_exists.mp (owned version stored)
  rw [find?_contracts_deleteRows, found, Option.filter_some, if_pos]
  · rfl
  · have other : version.contractId ≠ contractId := by simpa using spared
    simp [RowTable.key_of_find? found, other]

/-- A deletion that succeeds has found its contract. -/
theorem deleteContract_ok
    (deleted : database.deleteContract workspaceId contractId = .ok after) :
    (database.lockedContract workspaceId contractId).isSome = true ∧
      after = database.deleteRows workspaceId contractId := by
  unfold deleteContract deletable at deleted
  cases locked : database.lockedContract workspaceId contractId with
  | none =>
      rw [locked] at deleted
      cases deleted
  | some contract =>
      rw [locked] at deleted
      simp only at deleted
      by_cases active : contract.status.activeProcessing = true
      · rw [if_pos active] at deleted
        cases deleted
      · rw [if_neg active] at deleted
        cases deleted
        exact ⟨rfl, rfl⟩

/-! ## Changing a status -/

theorem find?_contracts_updateContractStatus (status : WorkflowState) (id : Uuid) :
    (database.updateContractStatus contractId status).contracts.find? id =
      (database.contracts.find? id).map fun row =>
        if row.id = contractId then { row with status } else row := by
  refine (RowTable.find?_updateWhere _ _ _ _).trans ?_
  simp

theorem holds_updateContractStatus (status : WorkflowState) :
    (database.updateContractStatus contractId status).Holds content ids ↔
      database.Holds content ids := by
  constructor
  · rintro ⟨contract, version, found, own, present, owner, sha⟩
    rw [find?_contracts_updateContractStatus, Option.map_eq_some_iff] at found
    obtain ⟨row, stored, rfl⟩ := found
    refine ⟨row, version, stored, ?_, present, owner, sha⟩
    split_ifs at own <;> exact own
  · rintro ⟨contract, version, found, own, present, owner, sha⟩
    refine ⟨if contract.id = contractId then { contract with status } else contract,
      version, ?_, ?_, present, owner, sha⟩
    · rw [find?_contracts_updateContractStatus, found, Option.map_some]
    · split_ifs <;> exact own

theorem owned_updateContractStatus (owned : database.Owned) (status : WorkflowState) :
    (database.updateContractStatus contractId status).Owned := by
  intro version member
  rw [find?_contracts_updateContractStatus, Option.isSome_map]
  exact owned version member

end ReviewDatabase

end ContractMate
