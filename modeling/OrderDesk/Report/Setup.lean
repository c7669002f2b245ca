import OrderDesk.Store.Address
import OrderDesk.Report.Stored
import OrderDesk.Service.Launch

/-!
# Reporting the set-up

Reports of what comes before the first request: the schema of a store, the migration commands
run on it and opening it from a URL; and runs of the whole program with its log set-up.
-/

/-! ## Reporting schemas

A schema is reported by the names of its tables and of its indexes, each list ascending; after a
migration command the names of the applied migrations follow, in the order of the migrations.
-/

namespace OrderDesk.Store

/-- The tables and indexes of a store. -/
def Db.schemaJson (db : Db) : Json :=
  .obj [("tables", .arr (db.tableNames.map .str)), ("indexes", .arr (db.indexNames.map .str))]

/-- The tables and indexes of a store, with its applied migrations. -/
def Db.migrationJson (db : Db) : Json :=
  .obj [("tables", .arr (db.tableNames.map .str)), ("indexes", .arr (db.indexNames.map .str)),
    ("applied", .arr (db.appliedMigrations.map (.str ·.name)))]

/-- The reports of schema commands run in turn on a fresh store. -/
def commandsJson (commands : List SchemaCommand) : Json :=
  .arr ((Db.empty.runCommands commands).map fun
    | (none, db) => .obj [("ok", db.migrationJson)]
    | (some f, _) => (StoreError.execution f).toJson)

/-- The report of opening the store a URL names. -/
def openJson (url : String) : Json :=
  match openStore url with
  | .ok db => .obj [("ok", db.schemaJson)]
  | .error e => e.toJson

end OrderDesk.Store

/-! ## Reporting runs of the program

A run is reported by whether the program listened, the answers to the requests sent to it while it
did, its exit status, its error stream, and whether its log showed the interrupt and the stop.
Requests are sent from a place that cannot reach the program's address, so each fails with the
system's network error.

A look at the log set-up reports the configured level, the first set-up succeeding and the second
refused, the interrupt arriving, and whether it was logged.
-/

namespace OrderDesk

/-- Why a request to the running program fails. -/
def requestFailure : IoFault := .os 101 "NetworkUnreachable" "Network is unreachable"

/-- A run of the program that was sent `requests` requests while listening. -/
def RunReport.toJson (r : RunReport) (requests : Nat) : Json :=
  let failure : Json := .obj [("error", .str "Http"), ("message", .str requestFailure.message)]
  .obj [("listening", .bool r.listening),
    ("responses", .arr (if r.listening then List.replicate requests failure else [])),
    ("exit_code", Json.nat r.exitCode),
    ("stderr", .str ("\n".intercalate r.errorLines).trimAscii.toString),
    ("logged_shutdown", .bool r.loggedShutdown), ("logged_stopped", .bool r.loggedStopped)]

/-- A look at setting up the log with the environment. -/
def probeJson (env : Lookup) : Json :=
  match probeLog env with
  | .error e =>
    .obj [("config", .obj [("error", .str e.variant), ("message", .str e.message)]),
      ("logged_shutdown", .bool false)]
  | .ok (level, logged) =>
    .obj [("log_level", .str level), ("first", .obj [("ok", .null)]),
      ("second", logAlreadySet.toJson), ("shutdown", .bool true), ("logged_shutdown", .bool logged)]

end OrderDesk
