import OrderDesk.Catalog
import OrderDesk.Order.Request
import OrderDesk.Order.Error

/-!
# Order snapshots

An order keeps copies of the names and prices it was placed with, so that later changes to the
catalog do not alter it. `snapshot` copies them from the catalog for every line and selection,
in request order; it checks nothing but that the rows exist, and reports the first missing row
met while walking the lines, a line's item before its selections.
-/

namespace OrderDesk

/-- An option as ordered: the option, its units, and its name and price when ordered. -/
structure OptionSnapshot where
  optionId : Int
  quantity : Int
  name : String
  price : Float

/-- A line as ordered. -/
structure ItemSnapshot where
  menuItemId : Int
  quantity : Int
  instructions : Option String
  name : String
  price : Float
  options : List OptionSnapshot

/-- A new order ready to be written. -/
structure OrderDraft where
  orderType : OrderType
  orderStatus : OrderStatus
  paymentStatus : PaymentStatus
  restaurantId : Int
  items : List ItemSnapshot

/-- The snapshot of one selection. -/
def snapshotSelection (cat : Catalog) (s : Selection) : Except OrderError OptionSnapshot :=
  match cat.option? s.optionId with
  | some o => pure { optionId := o.id, quantity := s.quantity, name := o.name, price := o.price }
  | none => throw (.optionNotFound s.optionId)

/-- The snapshot of one line. -/
def snapshotLine (cat : Catalog) (line : Line) : Except OrderError ItemSnapshot := do
  let some offer := cat.offer? line.menuItemId | throw (.menuItemNotFound line.menuItemId)
  let options ← line.selections.mapM (snapshotSelection cat)
  pure { menuItemId := offer.item.id, quantity := line.quantity, instructions := line.instructions,
         name := offer.item.name, price := offer.item.price, options }

/-- The new order for a request: open, unpaid, with a snapshot of every line. -/
def snapshot (cat : Catalog) (req : OrderRequest) : Except OrderError OrderDraft := do
  let items ← req.lines.mapM (snapshotLine cat)
  pure { orderType := req.orderType, orderStatus := .opened, paymentStatus := .unpaid,
         restaurantId := req.restaurantId, items }

end OrderDesk
