import OrderDesk.Store.Write
import OrderDesk.Order.Snapshot

/-!
# Orders in the store

Reading an order back means reading its header, its lines in id order, and the options of each
line by ascending option id: `hydrate` does this for several orders with one read per table,
and reads the option table only when some line exists. The rows read are filed by the key they
belong to, and each order, and each line, takes its own rows out of the file (`claimRows`).

Writing a new order is one transaction: the header, then every line, then every chosen option,
then the commit. If a statement or the commit fails, the transaction is rolled back, nothing is
kept, and the failure says how far the write had come. The header is stamped with the clock's
reading, for both its creation and its last change.

Every read fails when the pool is closed or a table it reads is missing; statements run for their
effect report their failures as such.
-/

namespace OrderDesk.Store

/-- A line of a stored order with the options chosen on it, by ascending option id. -/
structure StoredLine where
  row : ItemRow
  options : List SelectionRow

/-- An order as read back: its header and its lines in id order. -/
structure StoredOrder where
  header : OrderRow
  lines : List StoredLine

namespace Db

/-- A read of the given tables. -/
def select {α : Type} (db : Db) (tables : List Table) (f : Db → α) : Except StoreError α :=
  if db.closed then .error .poolClosed
  else
    match db.need tables with
    | .error e => .error (.query e)
    | .ok () => .ok (f db)

/-- A statement that returns the rows it wrote; its faults are those of a query. -/
def returning {α : Type} (db : Db) (stmt : Db → Except EngineFault (α × Db)) :
    Except StoreError (α × Db) :=
  if db.closed then .error .poolClosed
  else (stmt db).mapError .query

/-- A statement that writes one row and returns it, with the row's key: the row stays written
even when its key is too large to read back, and then the statement fails. -/
def made {α : Type} (db : Db) (key : α → RowRef) (stmt : Db → Except EngineFault (α × Db)) :
    Except StoreError α × Db :=
  match db.returning stmt with
  | .error e => (.error e, db)
  | .ok (row, db') =>
    match (key row).oversizedColumn? with
    | some c => (.error (.keyTooLarge c), db')
    | none => (.ok row, db')

/-- A statement run for its effect. -/
def execute {α : Type} (db : Db) (stmt : Db → Except EngineFault (α × Db)) :
    Except StoreError (α × Db) :=
  if db.closed then .error .poolClosed
  else (stmt db).mapError .execution

/-- Sorts by ascending id. -/
def byId {α : Type} (id : α → Int) (xs : List α) : List α :=
  xs.mergeSort fun a b => id a ≤ id b

/-- The header of the order with the id. -/
def findOrder (db : Db) (id : Int) : Except StoreError (Option OrderRow) :=
  db.select [.order] fun db => db.orders.find? (·.id == id)

/-- Hands each of `keys` in turn the pending rows filed under its key, in the order they were
filed, and takes them out of the pending rows: a key met a second time finds none left. -/
def claimRows {α β γ : Type} (rowKey : α → Int) (key : β → Int) (make : β → List α → γ) :
    List α → List β → List γ
  | _, [] => []
  | pending, b :: bs =>
    make b (pending.filter (rowKey · == key b)) ::
      claimRows rowKey key make (pending.filter (rowKey · != key b)) bs

/-- The orders with their lines and options. Both reads are filed by key: each line in turn
claims the options filed under its id, and then each order in turn claims the lines filed under
its id. -/
def hydrate (db : Db) (orders : List OrderRow) : Except StoreError (List StoredOrder) := do
  if orders.isEmpty then return []
  let orderIds := orders.map (·.id)
  let items ← db.select [.orderItem] fun db =>
    byId (·.id) (db.items.filter fun i => orderIds.contains i.orderId)
  let selections ← if items.isEmpty then pure [] else
    let itemIds := items.map (·.id)
    db.select [.orderItemOption] fun db =>
      (db.selections.filter fun s => itemIds.contains s.itemId).mergeSort fun a b =>
        a.itemId < b.itemId || (a.itemId == b.itemId && a.optionId ≤ b.optionId)
  let lines := claimRows (·.itemId) (·.id)
    (fun i options => ({ row := i, options } : StoredLine)) selections items
  pure (claimRows (·.row.orderId) (·.id)
    (fun o lines => ({ header := o, lines } : StoredOrder)) lines orders)

/-- The order with the id, read back whole. -/
def getOrder (db : Db) (id : Int) : Except StoreError (Option StoredOrder) := do
  match ← db.findOrder id with
  | none => pure none
  | some o => pure (← db.hydrate [o]).head?

/-- Whether order `a` is listed before order `b`: newer first, then higher id first. -/
def listedBefore (a b : OrderRow) : Bool :=
  a.createdAt.after b.createdAt || (a.createdAt == b.createdAt && a.id ≥ b.id)

/-- The number of orders of a restaurant. -/
def countOrders (db : Db) (restaurantId : Int) : Except StoreError Nat :=
  db.select [.order] fun db => (db.orders.filter (·.restaurantId == restaurantId)).length

/-- The headers of the restaurant's orders, newest first, skipping `offset` and keeping at most
`limit`. -/
def pageOfOrders (db : Db) (restaurantId : Int) (offset limit : Nat) :
    Except StoreError (List OrderRow) :=
  db.select [.order] fun db =>
    (((db.orders.filter (·.restaurantId == restaurantId)).mergeSort listedBefore).drop offset).take
      limit

/-- Writes the lines of a draft after its header, collecting the chosen options. -/
def writeLines (orderId : Int) :
    Db → List ItemSnapshot → List SelectionRow → Except OrderError (Db × List SelectionRow)
  | db, [], acc => pure (db, acc)
  | db, line :: rest, acc => do
    let row : ItemRow :=
      { id := 0, quantity := line.quantity, instructions := line.instructions, name := line.name,
        price := line.price, menuItemId := line.menuItemId, orderId }
    let (item, db) ← (db.returning fun db => db.insertItem none row).mapError
      (.writeFailed .headerWritten)
    let chosen := line.options.map fun o =>
      { itemId := item.id, optionId := o.optionId, quantity := o.quantity, name := o.name,
        price := o.price }
    writeLines orderId db rest (acc ++ chosen)

/-- Writes the chosen options of the new order. -/
def writeSelections : Db → List SelectionRow → Except OrderError Db
  | db, [] => pure db
  | db, s :: rest => do
    let ((), db) ← (db.returning fun db => do pure ((), ← db.insertSelection s)).mapError
      (.writeFailed .itemsWritten)
    writeSelections db rest

/-- Commits a transaction; the engine can refuse the commit. -/
def commit (db : Db) : Except StoreError Unit :=
  match db.commitRefusal with
  | some r => .error (.query r.fault)
  | none => .ok ()

/-- Writes a new order in one transaction: gives its id and the database after commit, or the
failure, in which case nothing was written. -/
def writeDraft (db : Db) (draft : OrderDraft) : Except OrderError (Int × Db) := do
  if db.closed then throw (.writeFailed .started .poolClosed)
  let (now, db) := db.tick
  let header : OrderRow :=
    { id := 0, orderType := draft.orderType, orderStatus := draft.orderStatus,
      paymentStatus := draft.paymentStatus, restaurantId := draft.restaurantId,
      createdAt := now, updatedAt := now }
  let (order, db) ← (db.returning fun db => db.insertOrder none header).mapError
    (.writeFailed .started)
  let (db, chosen) ← writeLines order.id db draft.items []
  let db ← writeSelections db chosen
  db.commit.mapError (.writeFailed .modifiersWritten)
  pure (order.id, db)

/-- Sets the given header fields of an order and stamps it as changed. -/
def updateHeader (db : Db) (row : OrderRow) (orderType : Option OrderType)
    (orderStatus : Option OrderStatus) (paymentStatus : Option PaymentStatus) :
    Except StoreError (OrderRow × Db) :=
  db.returning fun db => do
    db.need [.order]
    let (now, db) := db.tick
    let row' : OrderRow :=
      { row with orderType := orderType.getD row.orderType,
                 orderStatus := orderStatus.getD row.orderStatus,
                 paymentStatus := paymentStatus.getD row.paymentStatus, updatedAt := now }
    pure (row', { db with orders := db.orders.map fun o => if o.id == row.id then row' else o })

/-- Removes the order with the id and what cascades from it; whether it existed. -/
def deleteOrder (db : Db) (id : Int) : Except StoreError (Bool × Db) := do
  let (n, db) ← db.execute fun db => db.removeByKey (.keyed .order id)
  pure (n > 0, db)

end Db

end OrderDesk.Store
