import Ryuk.Platform
import Ryuk.Foundation.Autocommit
import Ryuk.Foundation.Datetime
import Ryuk.Foundation.JsonText
import Ryuk.Foundation.Ranking
import Ryuk.Foundation.Table

/-!
# The store of execution records

`SQLiteExecutionRecordStore`: its tables in the two layouts a file can have, the script that
opening a file runs, and the two reads.  The statements are those of the source, in its order;
which of them share a transaction follows from the default mode of the database driver.
-/

namespace Ryuk
namespace Control

open Foundation Foundation.Json Foundation.Datetime Foundation.Autocommit

/-! ### Records -/

structure ExecutionRecord where
  requestId : String
  tenantId : String
  status : String
  policyVersion : String
  payload : Json
  createdAt : DateTime
  aware : createdAt.utcoffset.isSome = true

/-- A row of `execution_records`, without its sequence number. -/
structure RecordRow where
  requestId : String
  tenantId : String
  status : String
  policyVersion : String
  payloadJson : String
  createdAt : String
  deriving DecidableEq

/-- The primary key of the first layout. -/
def RecordRow.key (row : RecordRow) : String × String := (row.tenantId, row.requestId)

/-- What the store raises. -/
inductive StoreError where
  | operationalError (message : String)
  | runtimeError (message : String)
  | python (error : PyError)

/-- The record a row stands for. -/
def RecordRow.record (row : RecordRow) : Except StoreError ExecutionRecord :=
  match loads row.payloadJson with
  | none => .error (.python (.valueError "json"))
  | some payload =>
      match fromisoformat row.createdAt with
      | none => .error (.python (.valueError "fromisoformat"))
      | some createdAt =>
          if haware : createdAt.utcoffset.isSome = true then
            .ok ⟨row.requestId, row.tenantId, row.status, row.policyVersion, payload, createdAt,
              haware⟩
          else
            .error (.python (.valueError "Execution record timestamps require timezone data."))

/-! ### The database -/

/-- A table of records: keyed by tenant and request, or numbered and perhaps indexed. -/
inductive RecordsTable where
  | keyed (table : Table RecordRow (String × String) RecordRow.key)
  | numbered (rows : List (Nat × RecordRow)) (sequence : Nat) (indexed : Bool)

/-- The file: the versions in `schema_meta` and the two tables of records. -/
structure RecordDatabase where
  schemaMeta : Option (List Int)
  executionRecords : Option RecordsTable
  executionRecordsV1 : Option RecordsTable

namespace RecordDatabase

/-- `SELECT version FROM schema_meta LIMIT 1`. -/
def version (database : RecordDatabase) : Option Int :=
  database.schemaMeta.bind List.head?

/-- `CREATE TABLE IF NOT EXISTS schema_meta`. -/
def createSchemaMeta (database : RecordDatabase) : Except StoreError RecordDatabase :=
  .ok { database with schemaMeta := some (database.schemaMeta.getD []) }

/-- `INSERT INTO schema_meta(version) VALUES (?)`. -/
def insertVersion (version : Int) (database : RecordDatabase) :
    Except StoreError RecordDatabase :=
  .ok { database with schemaMeta := database.schemaMeta.map fun rows => rows ++ [version] }

/-- `UPDATE schema_meta SET version = ?`. -/
def updateVersion (version : Int) (database : RecordDatabase) :
    Except StoreError RecordDatabase :=
  .ok { database with schemaMeta := database.schemaMeta.map fun rows => rows.map fun _ => version }

/-- `ALTER TABLE execution_records RENAME TO execution_records_v1`. -/
def renameRecords (database : RecordDatabase) : Except StoreError RecordDatabase :=
  match database.executionRecords, database.executionRecordsV1 with
  | none, _ => .error (.operationalError "no such table: execution_records")
  | some _, some _ => .error (.operationalError
      "there is already another table or index with this name: execution_records_v1")
  | some table, none =>
      .ok { database with executionRecords := none, executionRecordsV1 := some table }

/-- `CREATE TABLE IF NOT EXISTS execution_records`. -/
def createRecords (database : RecordDatabase) : Except StoreError RecordDatabase :=
  .ok { database with
    executionRecords := some (database.executionRecords.getD (.numbered [] 0 false)) }

/-- `CREATE INDEX IF NOT EXISTS ... (tenant_id, request_id, record_sequence)`. -/
def createIndex (database : RecordDatabase) : Except StoreError RecordDatabase :=
  match database.executionRecords with
  | some (.numbered rows sequence _) =>
      .ok { database with executionRecords := some (.numbered rows sequence true) }
  | some (.keyed _) => .error (.operationalError "no such column: record_sequence")
  | none => .error (.operationalError "no such table: main.execution_records")

/-- One more row, under the next sequence number. -/
def appendRow (numbered : List (Nat × RecordRow) × Nat) (row : RecordRow) :
    List (Nat × RecordRow) × Nat :=
  (numbered.1 ++ [(numbered.2 + 1, row)], numbered.2 + 1)

/-- The rows of a table, without their sequence numbers. -/
def rowsOf : RecordsTable → List RecordRow
  | .keyed table => table.rows
  | .numbered rows _ _ => rows.map Prod.snd

/-- `INSERT INTO execution_records (...) SELECT ... FROM execution_records_v1`. -/
def copyRecords (database : RecordDatabase) : Except StoreError RecordDatabase :=
  match database.executionRecords, database.executionRecordsV1 with
  | some (.numbered rows sequence indexed), some source =>
      let copied := (rowsOf source).foldl appendRow (rows, sequence)
      .ok { database with
        executionRecords := some (.numbered copied.1 copied.2 indexed) }
  | some (.keyed table), some source =>
      match (rowsOf source).foldl (fun found row => found.bind fun table => table.insert row)
          (some table) with
      | some copied => .ok { database with executionRecords := some (.keyed copied) }
      | none => .error (.python .integrityError)
  | none, _ => .error (.operationalError "no such table: execution_records")
  | some _, none => .error (.operationalError "no such table: execution_records_v1")

/-- `DROP TABLE execution_records_v1`. -/
def dropRecordsV1 (database : RecordDatabase) : Except StoreError RecordDatabase :=
  match database.executionRecordsV1 with
  | some _ => .ok { database with executionRecordsV1 := none }
  | none => .error (.operationalError "no such table: execution_records_v1")

end RecordDatabase

/-! ### Opening -/

/-- `schema_version`. -/
def schemaVersion : Int := 2

/-- `_create_records_table`, and what follows. -/
def createRecordsTable (rest : Script RecordDatabase StoreError) :
    Script RecordDatabase StoreError :=
  .execute (.define RecordDatabase.createRecords) <|
  .execute (.define RecordDatabase.createIndex) rest

/-- The end of `_migrate`. -/
def finishMigration : Script RecordDatabase StoreError :=
  createRecordsTable <| .execute .commit .done

/-- `_migrate`. -/
def migrate : Script RecordDatabase StoreError :=
  .execute (.define RecordDatabase.createSchemaMeta) <|
  .select fun database =>
    match database.version with
    | none => .execute (.modify (RecordDatabase.insertVersion schemaVersion)) finishMigration
    | some version =>
        if version = 1 then
          .execute (.define RecordDatabase.renameRecords) <|
          createRecordsTable <|
          .execute (.modify RecordDatabase.copyRecords) <|
          .execute (.define RecordDatabase.dropRecordsV1) <|
          .execute (.modify (RecordDatabase.updateVersion schemaVersion)) finishMigration
        else if version ≠ schemaVersion then
          .raise (.runtimeError "Unsupported execution-record schema version.")
        else finishMigration

/-- `SQLiteExecutionRecordStore(path)`. -/
def openStore (file : RecordDatabase) : Except StoreError (Connection RecordDatabase) :=
  migrate.run (.connect file)

/-! ### Reading -/

/-- The rows of a tenant's request, with their sequence numbers. -/
def matchingRows (tenantId requestId : String) (rows : List (Nat × RecordRow)) :
    List (Nat × RecordRow) :=
  rows.filter fun entry => decide (entry.2.tenantId = tenantId) &&
    decide (entry.2.requestId = requestId)

/-- `get`. -/
def getRecord (store : Connection RecordDatabase) (tenantId requestId : String) :
    Except StoreError (Option ExecutionRecord) :=
  match store.view.executionRecords with
  | some (.numbered rows _ _) =>
      match (Ranking.sortBy (fun entry => -(entry.1 : Int))
          (matchingRows tenantId requestId rows)).head? with
      | some entry => entry.2.record.map some
      | none => .ok none
  | some (.keyed _) => .error (.operationalError "no such column: record_sequence")
  | none => .error (.operationalError "no such table: execution_records")

/-- `health()["schema_version"]`. -/
def reportedVersion (store : Connection RecordDatabase) : Option Int := store.view.version

end Control
end Ryuk
