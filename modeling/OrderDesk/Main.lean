import OrderDesk.Report.Setup
import OrderDesk.Http.Router
import OrderDesk.Json.Read
import OrderDesk.Json.Access

/-!
# The command line

`main` starts the service from the environment, as `runProgram` describes: on a failure it writes
`Error: ` and the failure's diagnostic form to the error stream and exits with status 1. Once
started it answers requests read from standard input, one JSON object per line with `method`
(`GET` when absent), `uri`, and optionally `content_type` and `body`; each answer is a JSON line
with the response's `status` and its `body` (or `text`). The end of the input stops it.

Log events the filter lets through are written to standard output as the level, the target and
the message.
-/

namespace OrderDesk.Cli

open Json

/-- The environment variables the program reads. -/
def variableNames : List String :=
  ["DATABASE_URL", "BIND_ADDRESS", "LOG_LEVEL", "REQUEST_TIMEOUT_SECS", "ALLOWED_ORIGINS",
    "RUST_LOG"]

/-- The program's environment. -/
def readEnvironment : IO Lookup := do
  let pairs ← variableNames.mapM fun n => do pure (n, ← IO.getEnv n)
  pure fun name => (pairs.find? (·.1 == name)).bind (·.2)

/-- A request from its JSON form. -/
def requestOf (j : Json) : Http.Request :=
  { method := j.strAt "method" "GET", target := j.strAt "uri" "/",
    contentType := match j.get? "content_type" with
      | some v => str? v
      | none => some "application/json",
    body := j.strAt "body" "" }

/-- Writes a log event when the filter lets it through. -/
def logInfo (r : RunReport) (target message : String) : IO Unit := do
  if r.logs target then (← IO.getStdout).putStrLn ("INFO " ++ target ++ ": " ++ message)

/-- Answers requests from standard input until it ends. -/
partial def serveInput (stdin stdout : IO.FS.Stream) (db : Store.Db) : IO Unit := do
  let line ← stdin.getLine
  if line.isEmpty then return
  let text := line.trimAscii.toString
  if text.isEmpty then serveInput stdin stdout db
  else
    match Json.parse text with
    | .error e =>
      stdout.putStrLn (Json.obj [("error", .str "BadRequestLine"), ("message", .str e.text)]).render
      stdout.flush
      serveInput stdin stdout db
    | .ok j =>
      let (reply, db') := Http.handle (requestOf j) db
      stdout.putStrLn reply.toJson.render
      stdout.flush
      serveInput stdin stdout db'

end OrderDesk.Cli

section

open OrderDesk OrderDesk.Cli

/-- Runs the service on standard input and output. -/
def main : IO UInt32 := do
  let env ← readEnvironment
  let report := runProgram env
  let stderr ← IO.getStderr
  for line in report.complaints do stderr.putStrLn line
  match report.ending with
  | .served db =>
    logInfo report programTarget ("Listening on " ++ (Settings.ofLookup env).toOption.elim ""
      (·.bindAddress))
    serveInput (← IO.getStdin) (← IO.getStdout) db
    logInfo report startupTarget "Shutdown signal received"
    logInfo report programTarget "Server stopped"
    pure 0
  | _ =>
    for line in (report.errorLines.drop report.complaints.length) do stderr.putStrLn line
    pure (UInt32.ofNat report.exitCode)

end
