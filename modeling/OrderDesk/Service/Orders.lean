import OrderDesk.Store.Orders
import OrderDesk.Service.Error
import OrderDesk.Order.Validate
import OrderDesk.Order.Form
import OrderDesk.Config.Settings

/-!
# The order service

Creating an order runs its steps in a fixed order, and the first failure is the answer:

1. a request without lines is refused;
2. the menu items it names are fetched strictly, with their groups, then its options;
3. the lines are checked against those rows (`checkLines`);
4. the snapshot of names and prices is taken, and written in one transaction;
5. the order is read back. A failure here leaves the order written.

Listing pages through a restaurant's orders, newest first. A page size of zero is refused, and so
is a page whose first position does not fit in 64 bits. The store takes positions as signed
64-bit numbers: a page size or first position beyond that range stops the request outright,
after the orders have been counted.

Changing an order needs at least one field; a missing order is `none`, not an error.
-/

/-! ## Fetching catalog rows strictly

An order names menu items and modifier options by id; before it can be checked, every one of
them must be read. A strict fetch reads the rows of a set of distinct ids and fails unless it
found as many rows as ids: missing rows are an error, not a smaller answer. An empty set reads
nothing, so it succeeds even when the store cannot be reached.

Menu items may be read with the modifier groups attached to them, each item's groups by
ascending id; links to groups that do not exist are skipped.
-/

namespace OrderDesk

open Store

namespace Store.Db

/-- The groups attached to the menu item, by ascending id. -/
def groupsOf (db : Db) (menuItemId : Int) : List ModifierGroup :=
  let ids := (db.links.filter (·.menuItemId == menuItemId)).map (·.modifierId)
  byId (·.id) (db.groups.filter fun g => ids.contains g.id)

/-- Reads the menu items with the given distinct ids, by ascending id, with their groups when
`withGroups` holds; fails unless every id was found. -/
def fetchOffers (db : Db) (ids : List Int) (withGroups : Bool) :
    Except CatalogError (List Offer) := do
  if ids.isEmpty then return []
  let tables := if withGroups then [.menuItem, .menuItemModifier, .modifier] else [.menuItem]
  let offers ← (db.select tables fun db =>
    (byId (·.id) (db.menuItems.filter fun m => ids.contains m.id)).map fun m =>
      { item := m, groups := if withGroups then some (db.groupsOf m.id) else none }).mapError
        .store
  ensureAllFound "menu item" ids.length offers.length
  pure offers

/-- Reads the modifier options with the given distinct ids, by ascending id; fails unless every
id was found. -/
def fetchOptions (db : Db) (ids : List Int) : Except CatalogError (List ModifierOption) := do
  if ids.isEmpty then return []
  let options ← (db.select [.modifierOption] fun db =>
    byId (·.id) (db.options.filter fun o => ids.contains o.id)).mapError .store
  ensureAllFound "modifier option" ids.length options.length
  pure options

end Store.Db

/-! ## Creating, listing and changing orders -/

/-- One page of a restaurant's orders. -/
structure OrderPage where
  orders : List StoredOrder
  total : Nat
  page : Nat
  perPage : Nat
  totalPages : Nat

/-- What asking for a page comes to. -/
inductive PageOutcome where
  | page (p : OrderPage)
  | refused (e : ServiceError)
  /-- The request was stopped outright, with this message. -/
  | halted (message : String)

/-- The greatest signed 64-bit integer. -/
def i64Max : Nat := Nat.pow 2 63 - 1

/-- The message of a request stopped because a number did not fit the store's integers. -/
def positionTooLarge : String :=
  "called `Result::unwrap()` on an `Err` value: TryFromIntError(PosOverflow)"

/-- Creates an order up to its commit: the checks, the snapshot, and the write in one
transaction. Gives the new order's id and the database after the commit. -/
def commitOrder (req : OrderRequest) (db : Db) : Except OrderError (Int × Db) := do
  if req.lines.isEmpty then throw .emptyOrder
  let offers ← (db.fetchOffers req.menuItemIds true).mapError .catalog
  let options ← (db.fetchOptions req.optionIds).mapError .catalog
  let cat := Catalog.ofLists offers options
  checkLines cat req.restaurantId req.lines
  let draft ← snapshot cat req
  db.writeDraft draft

/-- Creates an order; the database is changed only when the write was committed. -/
def createOrder (req : OrderRequest) (db : Db) : Except OrderError StoredOrder × Db :=
  match commitOrder req db with
  | .error e => (.error e, db)
  | .ok (id, db') =>
    match db'.getOrder id with
    | .error e => (.error (.storage e), db')
    | .ok none => (.error (.missingAfterCommit id), db')
    | .ok (some o) => (.ok o, db')

/-- The order with the id. -/
def getOrder (id : Int) (db : Db) : Except ServiceError (Option StoredOrder) :=
  (db.getOrder id).mapError .store

/-- The page of a restaurant's orders. -/
def listOrders (restaurantId : Int) (page perPage : Nat) (db : Db) : PageOutcome :=
  if perPage = 0 then .refused (.badRequest "entries must be at least 1")
  else if page * perPage > u64Max then
    .refused (.badRequest "page is out of range for the given entries")
  else
    match db.countOrders restaurantId with
    | .error e => .refused (.store e)
    | .ok total =>
      if perPage > i64Max || page * perPage > i64Max then .halted positionTooLarge
      else
        let rows := (db.pageOfOrders restaurantId (page * perPage) perPage).bind db.hydrate
        match rows with
        | .error e => .refused (.store e)
        | .ok orders =>
          .page { orders, total, page, perPage, totalPages := (total + perPage - 1) / perPage }

/-- Applies a change to the order with the id, giving the order afterwards. -/
def updateOrder (id : Int) (p : OrderPatch) (db : Db) :
    Except ServiceError (Option StoredOrder) × Db :=
  if p.isEmpty then
    (.error (.badRequest "at least one of order_type, order_status or payment_status is required"),
      db)
  else
    match db.findOrder id with
    | .error e => (.error (.store e), db)
    | .ok none => (.ok none, db)
    | .ok (some row) =>
      match db.updateHeader row p.orderType p.orderStatus p.paymentStatus with
      | .error e => (.error (.store e), db)
      | .ok (row', db') =>
        match db'.hydrate [row'] with
        | .error e => (.error (.store e), db')
        | .ok orders => (.ok orders.head?, db')

/-- Removes the order with the id, with its lines; whether it existed. -/
def deleteOrder (id : Int) (db : Db) : Except ServiceError Bool × Db :=
  match db.deleteOrder id with
  | .error e => (.error (.store e), db)
  | .ok (found, db') => (.ok found, db')

end OrderDesk
