import ContractMate.ReviewDatabase

/-!
# Deleting a contract

`delete_contract` locks the contract's row, refuses while it is being processed, has its
objects deleted and then deletes its rows in every table, all in one transaction block.
-/

namespace ContractMate

namespace ReviewDatabase

variable (database : ReviewDatabase) (workspaceId : String) (contractId : Uuid)

/-- The row that `SELECT … FOR UPDATE` finds. -/
def lockedContract : Option ContractRow :=
  (database.contracts.find? contractId).filter fun row => row.workspaceId = workspaceId

/-- The checks before anything is deleted. -/
def deletable : Except Exn ContractRow :=
  match database.lockedContract workspaceId contractId with
  | none => .error (Exn.valueError "Contract not found.")
  | some contract =>
      if contract.status.activeProcessing then
        .error (Exn.valueError
          "Wait for contract review processing to finish before deleting it.")
      else .ok contract

/-- `version_rows`. -/
def versionRows : List ContractVersionRow :=
  database.versions.select fun row => row.contractId = contractId

/-- The object keys of the versions, each once and in order; empty keys name no
object. -/
def objectKeys : List String :=
  (((database.versionRows contractId).map ContractVersionRow.objectKey).filter
    fun key => key ≠ "").eraseDups

def runIds : List Uuid :=
  (database.runs.select fun row =>
    row.workspaceId = workspaceId && row.contractId = contractId).map ProcessingRun.id

/-- The `DELETE`s on these tables.  `audit` holds the events that name a contract. -/
def deleteRows : ReviewDatabase where
  slack :=
    { database.slack with
      outbound := database.slack.outbound.deleteWhere fun row =>
        row.workspaceId = workspaceId && row.contractId = some contractId
      jobs := database.slack.jobs.deleteWhere fun row => row.contractId = contractId }
  contracts := database.contracts.deleteWhere fun row =>
    row.workspaceId = workspaceId && row.id = contractId
  versions := database.versions.deleteWhere fun row => row.contractId = contractId
  reviews := database.reviews.deleteWhere fun row =>
    ((database.versionRows contractId).map ContractVersionRow.id).contains
      row.contractVersionId
  documents := database.documents.deleteWhere fun row =>
    ((database.versionRows contractId).map ContractVersionRow.id).contains
      row.contractVersionId
  sources := database.sources.deleteWhere fun row => row.contractId = contractId
  intents := database.intents.deleteWhere fun row =>
    row.workspaceId = workspaceId && row.contractId = contractId
  audit := database.audit.filter fun row =>
    !(row.workspaceId = workspaceId && row.contractId = contractId)
  runs := database.runs.deleteWhere fun row =>
    row.workspaceId = workspaceId && row.contractId = contractId
  stages := database.stages.deleteWhere fun row =>
    (database.runIds workspaceId contractId).contains row.runId
  emails := database.emails.deleteWhere fun row =>
    row.intent.workspaceId = workspaceId && row.intent.contractId = contractId

/-- `delete_contract` on these tables, once its objects are deleted. -/
def deleteContract : Except Exn ReviewDatabase :=
  (database.deletable workspaceId contractId).map fun _ =>
    database.deleteRows workspaceId contractId

end ReviewDatabase

end ContractMate
