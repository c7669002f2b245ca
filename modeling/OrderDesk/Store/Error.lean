import OrderDesk.Text.Quoted
import OrderDesk.Text.Utf8

/-!
# Store failures

What the store reports when an operation fails. The engine's own reports carry a numeric result
code and a text; the store wraps them by the kind of statement that failed (a query that returns
rows, or a statement run for its effect) or by the connection. A closed pool and messages made
up by a caller have texts of their own.

A failure counts as a constraint violation when the engine refused a row because of a key:
a duplicate primary key or a broken foreign key.
-/

namespace OrderDesk.Store

/-- A refusal by the database engine. -/
inductive EngineFault where
  /-- A row refers to a missing row (checked when the statement ends). -/
  | foreignKey
  /-- A deleted row is still referred to where deleting is restricted. -/
  | restricted
  /-- A primary key repeats. -/
  | primaryKey (table : String) (columns : List String)
  | noSuchTable (table : String)
  | tableExists (table : String)
  | indexExists (name : String)
  /-- A table the engine keeps for itself, which no statement may drop. -/
  | undroppable (table : String)
  | cannotOpen
  /-- A write to a store opened read-only. -/
  | readOnly
  /-- A database name asks for a file system the engine does not have. -/
  | noSuchFileSystem (name : String)
  /-- A database name in URI form names a host other than this one. -/
  | foreignAuthority (authority : String)
  /-- A database name in URI form gives an unknown value to an option of this kind. -/
  | unknownMode (kind value : String)
  /-- A database name in URI form asks for more access than the opening allows. -/
  | modeNotAllowed (kind value : String)
  /-- Another connection holds a lock the statement needs. -/
  | busy
  /-- The disk has no room for what the statement writes. -/
  | full

namespace EngineFault

/-- The engine's extended result code. -/
def code : EngineFault → Nat
  | .foreignKey => 787
  | .restricted => 1811
  | .primaryKey .. => 1555
  | .noSuchTable _ | .tableExists _ | .indexExists _ | .undroppable _ => 1
  | .cannotOpen => 14
  | .readOnly => 8
  | .noSuchFileSystem _ | .foreignAuthority _ | .unknownMode .. => 1
  | .modeNotAllowed .. => 3
  | .busy => 5
  | .full => 13

/-- The engine's text. -/
def text : EngineFault → String
  | .foreignKey | .restricted => "FOREIGN KEY constraint failed"
  | .primaryKey t cs => "UNIQUE constraint failed: " ++ ", ".intercalate (cs.map (t ++ "." ++ ·))
  | .noSuchTable t => "no such table: " ++ t
  | .tableExists t => "table \"" ++ t ++ "\" already exists"
  | .indexExists n => "index " ++ n ++ " already exists"
  | .undroppable t => "table " ++ t ++ " may not be dropped"
  | .cannotOpen => "unable to open database file"
  | .readOnly => "attempt to write a readonly database"
  | .noSuchFileSystem n => "no such vfs: " ++ n
  | .foreignAuthority a => "invalid uri authority: " ++ a
  | .unknownMode k v => "no such " ++ k ++ " mode: " ++ v
  | .modeNotAllowed k v => k ++ " mode not allowed: " ++ v
  | .busy => "database is locked"
  | .full => "database or disk is full"

/-- The report with its code, as the driver of the engine words it. -/
def report (f : EngineFault) : String :=
  "error returned from database: (code: " ++ toString f.code ++ ") " ++ f.text

/-- Whether the fault refuses a row because of a key. -/
def isKeyViolation : EngineFault → Bool
  | .foreignKey | .restricted | .primaryKey .. => true
  | _ => false

end EngineFault

/-- Why the engine refuses to commit a transaction, for a reason outside the rows. -/
inductive CommitRefusal where
  /-- Another connection holds a lock the commit needs. -/
  | busy
  /-- The disk has no room for the commit. -/
  | full

/-- The engine's fault for a refused commit. -/
def CommitRefusal.fault : CommitRefusal → EngineFault
  | .busy => .busy
  | .full => .full

/-- A failed store operation. -/
inductive StoreError where
  /-- A statement that returns rows failed. -/
  | query (f : EngineFault)
  /-- A statement run for its effect failed. -/
  | execution (f : EngineFault)
  /-- Opening the database failed. -/
  | connection (f : EngineFault)
  | unparsableUrl (url : String)
  | noDriver (url : String)
  | badConfiguration (detail : String)
  /-- A database file name that is not UTF-8: the number of valid bytes before the fault, and the
  length of the invalid sequence unless the bytes end inside one. -/
  | badEncoding (valid : Nat) (length : Option Nat)
  | poolClosed
  /-- No connection to a database server could be made in time. -/
  | poolTimedOut
  /-- A failure described by its caller. -/
  | custom (message : String)
  /-- A row was read whose column holds a key too large for the integer it is read into. -/
  | keyTooLarge (column : String)
  /-- The database could not be handed what it was asked with. -/
  | communication (detail : String)

namespace StoreError

/-- The text of a failure. -/
def message : StoreError → String
  | .query f => "Query Error: " ++ f.report
  | .execution f => "Execution Error: " ++ f.report
  | .connection f => "Connection Error: " ++ f.report
  | .unparsableUrl u => "Connection Error: The connection string '" ++ u ++ "' cannot be parsed."
  | .noDriver u => "Connection Error: The connection string '" ++ u ++ "' has no supporting driver."
  | .badConfiguration d => "Connection Error: error with configuration: " ++ d
  | .badEncoding v n => "Connection Error: error with configuration: " ++ Utf8.faultText (v, n)
  | .poolClosed => "Failed to acquire connection from pool: Connection closed"
  | .poolTimedOut => "Connection Error: pool timed out while waiting for an open connection"
  | .custom m => "Custom Error: " ++ m
  | .keyTooLarge c =>
    "Query Error: error occurred while decoding column " ++ Text.quoted c ++
      ": number too large to fit in target type"
  | .communication d => "Connection Error: error communicating with database: " ++ d

/-- Whether the failure is the engine refusing a row because of a key. -/
def isConstraintViolation : StoreError → Bool
  | .query f | .execution f => f.isKeyViolation
  | _ => false

/-- The structural description of a failure, as a diagnostic dump shows it. -/
def dump : StoreError → String
  | .query f => "Query(SqlxError(" ++ engineDump f ++ "))"
  | .execution f => "Exec(SqlxError(" ++ engineDump f ++ "))"
  | .connection f => "Conn(SqlxError(" ++ engineDump f ++ "))"
  | .unparsableUrl u =>
    "Conn(Internal(" ++
      Text.quoted ("The connection string '" ++ u ++ "' cannot be parsed.") ++ "))"
  | .noDriver u =>
    "Conn(Internal(" ++
      Text.quoted ("The connection string '" ++ u ++ "' has no supporting driver.") ++
      "))"
  | .badConfiguration d => "Conn(SqlxError(Configuration(" ++ Text.quoted d ++ ")))"
  | .badEncoding v n =>
    let length := match n with
      | some k => "Some(" ++ toString k ++ ")"
      | none => "None"
    "Conn(SqlxError(Configuration(Utf8Error \x7b valid_up_to: " ++ toString v ++ ", error_len: " ++
      length ++ " \x7d)))"
  | .poolClosed => "ConnectionAcquire(ConnectionClosed)"
  | .poolTimedOut => "Conn(SqlxError(PoolTimedOut))"
  | .custom m => "Custom(" ++ Text.quoted m ++ ")"
  | .keyTooLarge c =>
    "Query(SqlxError(ColumnDecode \x7b index: " ++ Text.quoted (Text.quoted c) ++
      ", source: ParseIntError \x7b kind: PosOverflow \x7d \x7d))"
  | .communication d =>
    "Conn(SqlxError(Io(Custom \x7b kind: InvalidData, error: " ++ Text.quoted d ++ " \x7d)))"
where
  /-- The engine's report as a dump shows it. -/
  engineDump (f : EngineFault) : String :=
    "Database(SqliteError \x7b code: " ++ toString f.code ++ ", message: " ++ Text.quoted f.text ++
      " \x7d)"

end StoreError

end OrderDesk.Store
