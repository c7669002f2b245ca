import OrderDesk.Service.Listen
import OrderDesk.Config.LogFilter
import OrderDesk.Config.Settings
import OrderDesk.Store.Address

/-!
# Running the service as a program

The program reads its configuration from the environment, sets up its log, opens its store
(applying the migrations), builds its routes with the cross-origin policy, and binds its
listener; then it serves until it is interrupted, and stops.

The first step that fails ends the program: an error is written to the error stream as `Error: `
and its diagnostic form, with exit status 1, and a cross-origin list holding `*` stops it
outright with status 101. Before that, the log set-up may complain about directives it skipped.

The log shows `Listening on …` once the listener is bound, `Shutdown signal received` when the
interrupt arrives and `Server stopped` at the end, all at level `info`, each where the filter lets
it through.

Setting up the log a second time in one process is refused, as the first set-up holds for the
whole process.
-/

namespace OrderDesk

/-- The log target of the program's own events, as its log lines show it. -/
def programTarget : String := "backoffice"

/-- The log target of the events of starting and stopping, as its log lines show it. -/
def startupTarget : String := "backoffice::server::startup"

/-- The failure of setting up the log once it has been set up. -/
def logAlreadySet : ServiceError :=
  .internal
    "Failed to install tracing subscriber: a global default trace dispatcher has already been set"

/-- How a run of the program ends. -/
inductive RunEnd where
  /-- Starting failed with the error. -/
  | failed (e : ServiceError)
  /-- Starting stopped outright with the message. -/
  | panicked (message : String)
  /-- The program served from the store until it was interrupted, then stopped. -/
  | served (store : Store.Db)

/-- What a run of the program shows. -/
structure RunReport where
  /-- The filter of the log, once it was set up. -/
  filter : Option LogFilter
  /-- The complaints written while the log was set up. -/
  complaints : List String
  ending : RunEnd

/-- Runs the program with the environment. -/
def runProgram (env : Lookup) : RunReport :=
  match Settings.ofLookup env with
  | .error e => { filter := none, complaints := [], ending := .failed (.config e) }
  | .ok s =>
    let (filter, complaints) := LogFilter.choose (env "RUST_LOG") s.logLevel
    let ending : RunEnd :=
      match Store.openStore s.databaseUrl with
      | .error e => .failed (.store e)
      | .ok store =>
        match corsPolicy s with
        | .refused e => .failed (.config e)
        | .halted m => .panicked m
        | .ready _ =>
          match bindListener s.bindAddress with
          | .error e => .failed (.io e)
          | .ok _ => .served store
    { filter := some filter, complaints, ending }

namespace RunReport

/-- Whether the log shows an `info` event of the target. -/
def logs (r : RunReport) (target : String) : Bool :=
  match r.filter with
  | some f => f.enables target .info
  | none => false

/-- Whether the program served. -/
def served (r : RunReport) : Bool :=
  match r.ending with
  | .served _ => true
  | _ => false

/-- Whether the log shows that the program listens. -/
def listening (r : RunReport) : Bool := r.served && r.logs programTarget

/-- Whether the log shows the interrupt. -/
def loggedShutdown (r : RunReport) : Bool := r.served && r.logs startupTarget

/-- Whether the log shows the stop. -/
def loggedStopped (r : RunReport) : Bool := r.served && r.logs programTarget

/-- The exit status. -/
def exitCode (r : RunReport) : Nat :=
  match r.ending with
  | .failed _ => 1
  | .panicked _ => 101
  | .served _ => 0

/-- The lines on the error stream. -/
def errorLines (r : RunReport) : List String :=
  r.complaints ++
    match r.ending with
    | .failed e => ["Error: " ++ e.dump]
    | .panicked m =>
      ["thread 'main' panicked:", m,
        "note: run with `RUST_BACKTRACE=1` environment variable to display a backtrace"]
    | .served _ => []

end RunReport

/-- What setting up the log from the environment shows: the configured level, and whether the
interrupt would be logged; or why the configuration was refused. -/
def probeLog (env : Lookup) : Except ConfigError (String × Bool) := do
  let s ← Settings.ofLookup env
  let (filter, _) := LogFilter.choose (env "RUST_LOG") s.logLevel
  pure (s.logLevel, filter.enables startupTarget .info)

end OrderDesk
