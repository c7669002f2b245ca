import OrderDesk.Json.Value

/-!
# HTTP requests and responses

A request is reduced to what the service looks at: its method, its target (path and query), its
`Content-Type` header when present, and its body. A response has a status and a body that is
empty, a JSON document, or plain text.

Most failures answer with a JSON object `{"error": …}`; the rejections of malformed paths and
query strings answer with plain text.
-/

namespace OrderDesk.Http

/-- A request as the service sees it. -/
structure Request where
  method : String
  /-- The path, followed by `?` and the query when there is one. -/
  target : String
  contentType : Option String
  body : String

/-- The body of a response. -/
inductive Body where
  | empty
  | json (j : Json)
  | text (s : String)

/-- A response. -/
structure Response where
  status : Nat
  body : Body

/-- A JSON response. -/
def Response.ofJson (status : Nat) (j : Json) : Response := { status, body := .json j }

/-- A JSON error response `{"error": message}`. -/
def Response.error (status : Nat) (message : String) : Response :=
  .ofJson status (.obj [("error", .str message)])

/-- A plain-text response. -/
def Response.ofText (status : Nat) (s : String) : Response := { status, body := .text s }

/-- A response without a body. -/
def Response.bare (status : Nat) : Response := { status, body := .empty }

/-- What handling a request comes to: a response, or a stop of the request with a message. -/
inductive Reply where
  | answer (r : Response)
  | halted (message : String)

/-- A target without its fragment: everything before the first `#`. The fragment is the
client's own and never reaches the service. -/
def withoutFragment (target : String) : String := (target.splitOn "#").headD ""

/-- The path of a target: everything before the first `?` or `#`. -/
def pathOf (target : String) : String := ((withoutFragment target).splitOn "?").headD ""

/-- The query of a target: everything after the first `?` and before the first `#`, when there
is a `?` before the first `#`. -/
def queryOf (target : String) : Option String :=
  match (withoutFragment target).splitOn "?" with
  | _ :: rest@(_ :: _) => some ("?".intercalate rest)
  | _ => none

end OrderDesk.Http
