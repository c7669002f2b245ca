import OrderDesk.Http.Message
import OrderDesk.Http.Form
import OrderDesk.Http.MediaType
import OrderDesk.Order.Body
import OrderDesk.Report.Stored
import OrderDesk.Http.ApiDocument

/-!
# Routing requests

The service answers on these paths:

* `/api/orders`: `GET` lists a restaurant's orders a page at a time, `POST` creates an order;
* `/api/orders/{order_id}`: `GET` reads, `PATCH` changes and `DELETE` removes one order;
* `/api/health`: `GET` answers `{"status": "ok"}` while the store can be reached;
* `/api-docs/openapi.json`: `GET` answers the API document.

Every `GET` route also answers `HEAD`, without a body. Any `OPTIONS` request is a cross-origin
preflight and is answered `200` before routing. An unknown path is `404` and a known path with
another method is `405`, both without a body.

A path id that is not a 32-bit integer is refused with a plain-text `400`, and so is a query
string the listing cannot read. A body is read as JSON only under a JSON media type, and a body
that cannot be read answers `400` with the reason. Errors of the service answer with their own
status and reply.
-/

namespace OrderDesk.Http

open Json Store

/-- The route a path names. -/
inductive Route where
  | orders
  | order (id : String)
  | health
  | document
  | unknown

/-- The route of a path. Segments are matched as written, before any decoding. -/
def routeOf (path : String) : Route :=
  match path.splitOn "/" with
  | ["", "api", "orders"] => .orders
  | ["", "api", "orders", id] => if id.isEmpty then .unknown else .order id
  | ["", "api", "health"] => .health
  | ["", "api-docs", "openapi.json"] => .document
  | _ => .unknown

/-- The id in a path segment, or the plain-text rejection. -/
def readPathId (segment : String) : Except Response Int :=
  let bytes := segment.toUTF8.toList
  let decoded := percentDecode false bytes
  match String.fromUTF8? (ByteArray.mk decoded.toArray) with
  | none => .error (.ofText 400 "Invalid URL: Invalid UTF-8 in `order_id`")
  | some value =>
    match readI32 value.toList with
    | .ok n => .ok n
    | .error _ => .error (.ofText 400 ("Invalid URL: Cannot parse `" ++ value ++ "` to a `i32`"))

/-- The reply text of a body that could not be read. -/
def bodyRejection (e : ReadError) : String :=
  match e.category with
  | .data => "Failed to deserialize the JSON body into the target type: " ++ e.textWithPath
  | _ => "Failed to parse the request body as JSON: " ++ e.textWithPath

/-- Reads a JSON body with the reader; a rejection is a bad request with its reason. -/
def readJsonBody {α : Type} (reader : Reader α) (req : Request) : Except ServiceError α :=
  let json := match req.contentType with
    | some ct => isJsonMediaType ct
    | none => false
  if !json then .error (.badRequest "Expected request with `Content-Type: application/json`")
  else (readDocument reader req.body).mapError fun e => .badRequest (bodyRejection e)

/-- The response of a service error. -/
def errorResponse (e : ServiceError) : Response := .error e.status e.reply

/-- `GET /api/orders`. -/
def listRoute (req : Request) (db : Db) : Reply :=
  match readListParams ((queryOf req.target).getD "") with
  | .error e => .answer (.ofText 400 ("Failed to deserialize query string: " ++ e))
  | .ok params =>
    match params.restaurantId with
    | none => .answer (errorResponse (.badRequest "restaurant_id is required"))
    | some r =>
      match listOrders r params.page params.entries db with
      | .page p => .answer (.ofJson 200 p.toJson)
      | .refused e => .answer (errorResponse e)
      | .halted m => .halted m

/-- `POST /api/orders`. -/
def createRoute (req : Request) (db : Db) : Response × Db :=
  let checked : Except ServiceError OrderRequest := do
    let form ← readJsonBody orderRecord.reader req
    form.toRequest.mapError fun f => .badRequest f.message
  match checked with
  | .error e => (errorResponse e, db)
  | .ok request =>
    match createOrder request db with
    | (.ok o, db') => (.ofJson 201 o.toJson, db')
    | (.error e, db') => (errorResponse (.order e), db')

/-- `GET /api/orders/{order_id}`. -/
def getRoute (id : Int) (db : Db) : Response :=
  match getOrder id db with
  | .ok (some o) => .ofJson 200 o.toJson
  | .ok none => errorResponse (.notFound "Order not found")
  | .error e => errorResponse e

/-- `PATCH /api/orders/{order_id}`. -/
def patchRoute (id : Int) (req : Request) (db : Db) : Response × Db :=
  match readJsonBody patchRecord.reader req with
  | .error e => (errorResponse e, db)
  | .ok p =>
    match updateOrder id p db with
    | (.ok (some o), db') => (.ofJson 200 o.toJson, db')
    | (.ok none, db') => (errorResponse (.notFound "Order not found"), db')
    | (.error e, db') => (errorResponse e, db')

/-- `DELETE /api/orders/{order_id}`. -/
def deleteRoute (id : Int) (db : Db) : Response × Db :=
  match deleteOrder id db with
  | (.ok true, db') => (.bare 204, db')
  | (.ok false, db') => (errorResponse (.notFound "Order not found"), db')
  | (.error e, db') => (errorResponse e, db')

/-- `GET /api/health`. -/
def healthRoute (db : Db) : Response :=
  if db.closed then errorResponse (.store .poolClosed)
  else .ofJson 200 (.obj [("status", .str "ok")])

/-- A reply without its body, as `HEAD` answers. -/
def Reply.headless : Reply → Reply
  | .answer r => .answer { r with body := .empty }
  | .halted m => .halted m

/-- A request that was stopped outright, as a report. -/
def haltedJson (message : String) : Json :=
  .obj [("error", .str "Panic"), ("message", .str message)]

/-- A reply as a report: its status and its body, which is `null` when empty and reported as
`text` when it is not JSON. -/
def Reply.toJson : Reply → Json
  | .answer r =>
    match r.body with
    | .empty => .obj [("status", Json.nat r.status), ("body", .null)]
    | .json j => .obj [("status", Json.nat r.status), ("body", j)]
    | .text s => .obj [("status", Json.nat r.status), ("text", .str s)]
  | .halted m => haltedJson m

/-- Handles a request. -/
def handle (req : Request) (db : Db) : Reply × Db :=
  let getLike := req.method == "GET" || req.method == "HEAD"
  let strip (r : Reply) : Reply := if req.method == "HEAD" then r.headless else r
  if req.method == "OPTIONS" then (.answer (.bare 200), db)
  else
    match routeOf (pathOf req.target) with
    | .orders =>
      if getLike then (strip (listRoute req db), db)
      else if req.method == "POST" then
        let (r, db') := createRoute req db
        (.answer r, db')
      else (.answer (.bare 405), db)
    | .order segment =>
      if getLike || req.method == "PATCH" || req.method == "DELETE" then
        match readPathId segment with
        | .error r => (strip (.answer r), db)
        | .ok id =>
          if getLike then (strip (.answer (getRoute id db)), db)
          else if req.method == "PATCH" then
            let (r, db') := patchRoute id req db
            (.answer r, db')
          else
            let (r, db') := deleteRoute id db
            (.answer r, db')
      else (.answer (.bare 405), db)
    | .health =>
      if getLike then (strip (.answer (healthRoute db)), db) else (.answer (.bare 405), db)
    | .document =>
      if getLike then (strip (.answer (.ofJson 200 apiDocument)), db) else (.answer (.bare 405), db)
    | .unknown => (.answer (.bare 404), db)

end OrderDesk.Http
