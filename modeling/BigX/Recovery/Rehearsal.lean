import BigX.Pipeline.Planning
import Mathlib.Logic.Function.Basic
import Mathlib.Data.List.Basic

set_option autoImplicit false

/- The disaster recovery rehearsal: the tables of the production database are counted, dumped,
restored into a schema of their own beside the production tables, and counted again. -/
namespace BigX.Recovery

variable {Row : Type}

/-- The rows of a database's tables, by schema and table. -/
abbrev Database (Row : Type) : Type := String → String → Option (List Row)

/-- The databases by URL, with the text of the exception where none answers. -/
abbrev Cluster (Row : Type) : Type := String → Except String (Database Row)

structure CompletedProcess where
  returncode : Int
  stdout : String
  stderr : String

/-- `result.stderr.strip() if result.returncode != 0 else ""` -/
def CompletedProcess.failure (result : CompletedProcess) : String :=
  if result.returncode = 0 then ""
  else
    let text := result.stderr.toList.dropWhile Pipeline.isSpace
    String.ofList (text.reverse.dropWhile Pipeline.isSpace).reverse

/-- The schemas in which PostgreSQL looks an unqualified name up. -/
def searchPath : List String := ["public"]

def relation (database : Database Row) (table : String) : Option (List Row) :=
  searchPath.findSome? fun schema => database schema table

/-- `query_db(url, f"SELECT COUNT(*) FROM {table}")` -/
def queryCount (cluster : Cluster Row) (url table : String) : Except String Nat :=
  match cluster url with
  | .error text => .error text
  | .ok database =>
    match relation database table with
    | none => .error ("relation \"" ++ table ++ "\" does not exist")
    | some rows => .ok rows.length

def tools : List String := ["pg_dump", "pg_restore", "psql"]

def tables : List String :=
  ["agents", "orders_listings", "processed_events", "monitor_checkpoint", "transactions",
    "execution_history", "sessions", "users", "nft_metadata"]

/-- What the rehearsal meets: the programs it runs, and the databases at the moments at which
it reads them. Other clients may write between any two of its own steps. -/
structure Environment (Row : Type) where
  prodDb : String
  restoreDb : String
  which : String → Bool
  firstProbe : Cluster Row
  rpcConnected : Except String Bool
  apiStatus : Except String Nat
  secondProbe : Cluster Row
  /-- The databases when the baseline counts a table. -/
  atBaseline : String → Cluster Row
  criticalAgents : Except String Nat
  fingerprint : Except String (Option String)
  backupFile : String
  pgDump : CompletedProcess
  /-- The size of the backup file, if there is one. -/
  backupSize : Option Nat
  pgRestoreList : CompletedProcess
  atRestore : Cluster Row
  /-- What dropping and creating the schema raises. -/
  schemaError : Option String
  pgRestore : CompletedProcess
  /-- The script that `pg_restore` wrote, as it is read back. -/
  sqlFile : Except String String
  writeError : Option String
  /-- `psql -d url -f script` -/
  psql : String → String → Cluster Row → CompletedProcess × Cluster Row
  restoreDuration : String
  /-- What other clients have changed by the time the verification counts a table. -/
  others : String → Cluster Row → Cluster Row

structure CheckResult where
  name : String
  passed : Bool
  detail : String
  expected : String
  actual : String

structure Report where
  results : List CheckResult
  errors : List String
  preState : String → Option Nat
  postState : String → Option Nat
  backupFile : Option String
  backupSize : Nat

/-- `DRReport()` -/
def Report.new : Report := ⟨[], [], fun _ => none, fun _ => none, none, 0⟩

def Report.add (report : Report) (name : String) (passed : Bool) (detail : String) : Report :=
  { report with
    results := report.results ++ [⟨name, passed, detail, "", ""⟩]
    errors := if passed then report.errors else report.errors ++ [name] }

/-- One `add` in a `try`, and the `add` of its handler. -/
def Report.attempt (report : Report) (name : String) (outcome : Except String (Bool × String)) :
    Report :=
  match outcome with
  | .ok (passed, detail) => report.add name passed detail
  | .error text => report.add name false text

def countKey (table : String) : String := table ++ "_count"

/-- 1. Environment validation -/
def environmentValidation (env : Environment Row) (report : Report) : Report :=
  let report := tools.foldl
    (fun report tool => report.add (tool ++ " available") (env.which tool) "") report
  let report := report.attempt "PostgreSQL reachable"
    ((env.firstProbe env.prodDb).map fun _ => (true, ""))
  let report := report.attempt "RPC reachable" (env.rpcConnected.map fun up => (up, ""))
  let report := report.attempt "API reachable"
    (env.apiStatus.map fun status => (decide (status = 200), ""))
  report.add "Production DB isolated" (env.prodDb != env.restoreDb)
    ("PROD: " ++ env.prodDb ++ ", RESTORE: " ++ env.restoreDb)

def captureCount (env : Environment Row) (report : Report) (table : String) : Report :=
  match queryCount (env.atBaseline table) env.prodDb table with
  | .ok count =>
    ({ report with preState := Function.update report.preState (countKey table) (some count) }).add
      (table ++ " count captured") true ("Count: " ++ toString count)
  | .error text => report.add (table ++ " count captured") false text

/-- 2. Pre-restore baseline -/
def baseline (env : Environment Row) (report : Report) : Report :=
  let report := tables.foldl (captureCount env) report
  match env.criticalAgents with
  | .error text => report.add "Critical agent records captured" false text
  | .ok agents =>
    let report := report.add "Critical agent records captured" true ("Count: " ++ toString agents)
    -- the fingerprint is taken in the same try, after the records have passed
    match env.fingerprint with
    | .error text => report.add "Critical agent records captured" false text
    | .ok _ => report

/-- 3. Creating the database backup -/
def createBackup (env : Environment Row) (report : Report) : Report :=
  let size := env.backupSize.getD 0
  ({ report with backupFile := some env.backupFile, backupSize := size }).add "Backup created"
    (decide (env.pgDump.returncode = 0) && env.backupSize.isSome && decide (1000 < size))
    env.pgDump.failure

/-- 4. Backup integrity -/
def backupIntegrity (env : Environment Row) (report : Report) : Report :=
  if env.backupSize.isSome then
    let report := report.add "Backup is restorable"
      (decide (env.pgRestoreList.returncode = 0) && env.pgRestoreList.stdout.contains "TABLE")
      env.pgRestoreList.failure
    report.add "Schema version captured" true "Version: unknown (no schema_migrations table)"
  else report

/-- `DROP SCHEMA IF EXISTS … CASCADE` and `CREATE SCHEMA …` -/
def recreate (schemaName : String) (database : Database Row) : Database Row :=
  Function.update database schemaName fun _ => none

/-- The script with the production schema's name replaced. -/
def rewritten (schemaName sql : String) : String :=
  ((sql.replace "public." (schemaName ++ ".")).replace
    "SET search_path = public;" ("SET search_path = " ++ schemaName ++ ";")).replace
    "SELECT pg_catalog.set_config('search_path', 'public', false);"
    ("SELECT pg_catalog.set_config('search_path', '" ++ schemaName ++ "', false);")

def raising (error : Option String) : Except String Unit :=
  match error with
  | none => .ok ()
  | some text => .error text

def CompletedProcess.check (result : CompletedProcess) (failed : String) : Except String Unit :=
  if result.returncode ≠ 0 then .error (failed ++ result.stderr) else .ok ()

/-- `ensure_restore_schema`, called with a backup file: the URL it returns, and the databases
as it leaves them. -/
def ensureRestoreSchema (env : Environment Row) (dbUrl schemaName : String) :
    Except String (String × Cluster Row) := do
  let database ← env.atRestore dbUrl
  raising env.schemaError
  env.pgRestore.check "pg_restore failed: "
  let sql ← env.sqlFile
  raising env.writeError
  let (completed, cluster) := env.psql dbUrl (rewritten schemaName sql)
    (Function.update env.atRestore dbUrl (.ok (recreate schemaName database)))
  completed.check "psql restore failed: "
  return (dbUrl, cluster)

def verifyCount (env : Environment Row) (cluster : Cluster Row) (restoreDbUrl : String)
    (report : Report) (table : String) : Report :=
  match queryCount (env.others table cluster) restoreDbUrl table with
  | .error text => report.add ("Table " ++ table ++ " restored") false text
  | .ok actual =>
    let report :=
      ({ report with
        postState := Function.update report.postState (countKey table) (some actual) }).add
        ("Table " ++ table ++ " restored") true ("Count: " ++ toString actual)
    match report.preState (countKey table) with
    | none => report
    | some expected =>
      report.add (table ++ " count matches") (expected == actual)
        ("Pre: " ++ toString expected ++ ", Post: " ++ toString actual)

/-- `_run_rehearsal`, up to the verification of the tables' counts. -/
def runRehearsal (env : Environment Row) (report : Report) : Report :=
  let report := environmentValidation env report
  if tools.all env.which then
    match env.secondProbe env.prodDb with
    | .error text => report.add "Production DB unreachable" false text
    | .ok _ =>
      let report := backupIntegrity env (createBackup env (baseline env report))
      match ensureRestoreSchema env env.prodDb "dr_restore" with
      | .error text => report.add "Create restore DB" false text
      | .ok (restoreDbUrl, cluster) =>
        let report := report.add "Create restore DB" true "Restore schema created"
        let report := report.add "Restore completed" true
          ("Duration: " ++ env.restoreDuration ++ "s")
        tables.foldl (verifyCount env cluster restoreDbUrl) report
  else
    report.add "Critical DB tools missing" false
      "pg_dump/pg_restore/psql not found in PATH - skipping backup/restore steps"

end BigX.Recovery
