import OrderDesk.Session.Step
import OrderDesk.Session.Mask
import OrderDesk.Http.Router
import OrderDesk.Report.Setup
import OrderDesk.Config.Settings
import OrderDesk.Report.Order

/-!
# Running a session

`start` sets a session up: the tables, as the layout says; the catalog, loaded with keys
unchecked; then the configuration, read with the in-memory store as its database unless the
variables name another, and the cross-origin policy built from it. The first of these to fail
ends the session before any step.

`State.step` runs one step and reports it as JSON, and `answer` runs a whole session. A step
that fails reports its error and leaves the store as the failure left it; the steps after it
run all the same. An answer of a session that made rows with factories has the factories'
numbers masked.
-/

namespace OrderDesk.Store

/-- The row counts as a report. -/
def RowCounts.toJson (c : RowCounts) : Json :=
  .obj [("orders", Json.nat c.orders), ("order_items", Json.nat c.orderItems),
    ("order_item_modifier_options", Json.nat c.selections), ("menu_items", Json.nat c.menuItems),
    ("modifier_options", Json.nat c.options)]

/-- The rows `makeWithDependencies` made, as a report. -/
def Dependencies.toJson (d : Dependencies) : Json :=
  .obj [("restaurant", d.restaurant.toJson), ("menu_item", d.menuItem.toJson),
    ("modifier", d.group.toJson), ("modifier_option", d.option.toJson)]

end OrderDesk.Store

namespace OrderDesk.Session

open Store Http

/-- A running session: its store, and how many rows its factories have numbered. -/
structure State where
  db : Db
  numbered : Nat

/-- Why a session could not be set up. -/
inductive SetupFault where
  /-- Making the tables failed. -/
  | schema (e : StoreError)
  /-- Loading the catalog failed. -/
  | catalog (e : StoreError)
  /-- The configuration was refused. -/
  | config (e : ConfigError)
  /-- Building the service stopped with this message. -/
  | halted (message : String)

/-- The variables a session's configuration reads: the given ones, with the in-memory store as
the database unless they name one. -/
def sessionLookup (vars : Lookup) : Lookup := fun name =>
  match vars name with
  | some v => some v
  | none => if name == "DATABASE_URL" then some "sqlite::memory:" else none

/-- The fresh store of a layout. -/
def Layout.build : Layout → Except StoreError Db
  | .migrated =>
    match Db.empty.migrateUp none with
    | (none, db) => .ok db
    | (some f, _) => .error (.execution f)
  | .tables ts => (ts.foldlM (fun (db : Db) t => db.createTable t) Db.empty).mapError .execution

/-- Sets a session up. -/
def start (layout : Layout) (rows : CatalogRows) (vars : Lookup) : Except SetupFault State := do
  let db ← layout.build.mapError .schema
  let (fault, db) := db.loadCatalog rows
  if let some e := fault then throw (.catalog e)
  let settings ← (Settings.ofLookup (sessionLookup vars)).mapError .config
  match corsPolicy settings with
  | .refused e => throw (.config e)
  | .halted m => throw (.halted m)
  | .ready _ => pure { db, numbered := 0 }

/-! ## Reports -/

/-- A successful result. -/
def okJson (j : Json) : Json := .obj [("ok", j)]

/-- The report of a row a factory made, or of why it failed. -/
def rowJson {α : Type} (toJson : α → Json) : Except StoreError α → Json
  | .ok row => okJson (toJson row)
  | .error e => e.toJson

/-- A row that was looked for and not found. -/
def missingJson (message : String) : Json :=
  .obj [("error", .str "Missing"), ("message", .str message)]

/-- Why a session could not be set up, as a report. -/
def SetupFault.toJson : SetupFault → Json
  | .schema e => .obj [("error", .str "Setup"), ("message", .str e.message)]
  | .catalog e => .obj [("error", .str "Catalog"), ("message", .str e.message)]
  | .config e =>
    .obj [("error", .str "Setup"),
      ("cause", .obj [("error", .str e.variant), ("message", .str e.message)])]
  | .halted m => haltedJson m

/-- The result of a service call, or its error. -/
def serviceJson {α : Type} (f : α → Json) : Except ServiceError α → Json
  | .ok a => okJson (f a)
  | .error e => e.toJson

/-- The result of a store operation, or its error. -/
def storeJson {α : Type} (f : α → Json) : Except StoreError α → Json
  | .ok a => okJson (f a)
  | .error e => e.toJson

/-- The key of a row: its id, or the pair of ids of a link row. -/
def keyJson : RowRef → Json
  | .keyed _ id => .int id
  | .link m g => .arr [.int m, .int g]
  | .selection i o => .arr [.int i, .int o]

/-- The key of a row as a pair, for ordering keys numerically. -/
def keyPair : RowRef → Int × Int
  | .keyed _ id => (id, 0)
  | .link m g => (m, g)
  | .selection i o => (i, o)

/-- Keys in ascending numeric order. -/
def sortKeys (keys : List RowRef) : List RowRef :=
  keys.mergeSort fun a b =>
    let (a1, a2) := keyPair a
    let (b1, b2) := keyPair b
    decide (a1 < b1 ∨ (a1 = b1 ∧ a2 ≤ b2))

/-! ## Steps -/

/-- Runs a factory; a factory that names its row by number counts it, made or not. -/
def State.make (s : State) : Make → Json × State
  | .restaurant name? currency? =>
    let n := s.numbered + 1
    let (r, db) := s.db.makeRestaurant (restaurantDraft n name? currency?)
    (rowJson Restaurant.toJson r, { db, numbered := n })
  | .menuItem restaurantId name? price? available? =>
    let n := s.numbered + 1
    let (m, db) := s.db.makeMenuItem (menuItemDraft n restaurantId name? price? available?)
    (rowJson MenuItem.toJson m, { db, numbered := n })
  | .group restaurantId name? required? multiSelect? max? =>
    let n := s.numbered + 1
    let (g, db) := s.db.makeGroup (groupDraft n restaurantId name? required? multiSelect? max?)
    (rowJson ModifierGroup.toJson g, { db, numbered := n })
  | .attach l =>
    let (l, db) := s.db.attach l
    (rowJson Link.toJson l, { s with db })
  | .option groupId name? price? available? preSelect? =>
    let n := s.numbered + 1
    let (o, db) := s.db.makeOption (optionDraft n groupId name? price? available? preSelect?)
    (rowJson ModifierOption.toJson o, { db, numbered := n })
  | .order restaurantId orderType? orderStatus? paymentStatus? createdAt? =>
    let (o, db) := s.db.makeOrder restaurantId orderType? orderStatus? paymentStatus? createdAt?
    (rowJson OrderRow.toJson o, { s with db })
  | .orderItem orderId menuItemId quantity =>
    match s.db.makeOrderItem orderId menuItemId quantity with
    | (.ok (some i), db) => (okJson i.toJson, { s with db })
    | (.ok none, db) => (missingJson "no such menu item", { s with db })
    | (.error e, db) => (e.toJson, { s with db })
  | .withDependencies =>
    let n := s.numbered + 1
    match s.db.makeWithDependencies n with
    | (.ok d, db) => (okJson d.toJson, { db, numbered := n + 3 })
    | (.error e, db) => (e.toJson, { db, numbered := n + 3 })

/-- Applies a change to a catalog row. -/
def State.change (s : State) (c : Change) : Json × State :=
  let result := match c with
    | .menuItem id c => s.db.changeMenuItem id c
    | .group id c => s.db.changeGroup id c
    | .option id c => s.db.changeOption id c
  match result with
  | .ok (some db) => (okJson .null, { s with db })
  | .ok none => (missingJson "no such row", s)
  | .error e => (e.toJson, s)

/-- Runs one step. -/
def State.step (s : State) : Step → Json × State
  | .http req =>
    let (r, db) := handle req s.db
    (r.toJson, { s with db })
  | .create req =>
    match createOrder req s.db with
    | (.ok o, db) => (okJson o.toJson, { s with db })
    | (.error e, db) => (e.toJson, { s with db })
  | .get id => (serviceJson (Json.opt StoredOrder.toJson) (getOrder id s.db), s)
  | .list restaurantId page perPage =>
    match listOrders restaurantId page perPage s.db with
    | .page p => (okJson p.toJson, s)
    | .refused e => (e.toJson, s)
    | .halted m => (haltedJson m, s)
  | .update id p =>
    let (r, db) := updateOrder id p s.db
    (serviceJson (Json.opt StoredOrder.toJson) r, { s with db })
  | .delete id =>
    let (r, db) := deleteOrder id s.db
    (serviceJson .bool r, { s with db })
  | .menuItems ids withGroups =>
    match s.db.fetchOffers (sortedDistinct ids) withGroups with
    | .ok offers => (okJson (.arr (offers.map Offer.toJson)), s)
    | .error e => (e.toJson, s)
  | .options ids =>
    match s.db.fetchOptions (sortedDistinct ids) with
    | .ok options => (okJson (.arr (options.map ModifierOption.toJson)), s)
    | .error e => (e.toJson, s)
  | .count => (storeJson RowCounts.toJson s.db.counts, s)
  | .insert rows =>
    match s.db.loadCatalog rows with
    | (none, db) => (okJson .null, { s with db })
    | (some e, db) => (.obj [("error", .str "Catalog"), ("message", .str e.message)], { s with db })
  | .change c => s.change c
  | .remove row =>
    match s.db.removeOne row with
    | .ok (n, db) => (okJson (Json.nat n), { s with db })
    | .error e => (e.toJson, s)
  | .make m => s.make m
  | .related row target =>
    match Db.relation row target with
    | none =>
      (.obj [("error", .str "DriverInput"),
        ("message", .str ("no relation from " ++ row.table.name ++ " to " ++ target.name))], s)
    | some (tables, follow) =>
      match s.db.related row tables follow with
      | .ok (some keys) => (okJson (.arr ((sortKeys keys).map keyJson)), s)
      | .ok none => (missingJson "no such row", s)
      | .error e => (e.toJson, s)
  | .schema =>
    let schema : Except StoreError Db := if s.db.closed then .error .poolClosed else .ok s.db
    (storeJson Db.schemaJson schema, s)
  | .close => (okJson .null, { s with db := { s.db with closed := true } })

/-- Runs the steps in order, reporting each. -/
def State.runAll (s : State) : List Step → List Json
  | [] => []
  | st :: rest =>
    let (j, s') := s.step st
    j :: s'.runAll rest

/-- The answer of a whole session: the reports of its steps, or why it could not be set up. -/
def answer (layout : Layout) (rows : CatalogRows) (vars : Lookup) (steps : List Step) : Json :=
  let j := match start layout rows vars with
    | .error f => f.toJson
    | .ok s => .obj [("steps", .arr (s.runAll steps))]
  if steps.any Step.isMake then maskJson j else j

end OrderDesk.Session
