import OrderDesk.Catalog
import OrderDesk.Order.Request
import OrderDesk.Store.Schema
import OrderDesk.Text.Timestamp

/-!
# Stored rows

The catalog tables hold the catalog's own records (`Restaurant`, `MenuItem`, `ModifierGroup`,
`ModifierOption`); the link table holds `Link`s. An order is stored as a header row, one row per
line and one row per chosen option of a line. Line and option rows copy the names and prices of
the moment the order was placed.

Times are instants in nanoseconds since 1970-01-01 UTC, so that ordering rows by time is ordering
integers.

A `RowRef` names one row of any table by its key.
-/

namespace OrderDesk.Store

/-- A real number as the engine reads it back: a zero of either sign is kept as the integer zero,
so it reads back as positive zero; any other value is kept as it is. -/
def storedReal (x : Float) : Float := if x == 0 then 0 else x

/-- A modifier group attached to a menu item. -/
structure Link where
  menuItemId : Int
  modifierId : Int
  deriving DecidableEq

/-- The header row of an order. -/
structure OrderRow where
  id : Int
  orderType : OrderType
  orderStatus : OrderStatus
  paymentStatus : PaymentStatus
  restaurantId : Int
  createdAt : Instant
  updatedAt : Instant

/-- A line of an order, with the item's name and price when ordered. -/
structure ItemRow where
  id : Int
  quantity : Int
  instructions : Option String
  name : String
  price : Float
  menuItemId : Int
  orderId : Int

/-- An option chosen on an order line, with its name and price when ordered. -/
structure SelectionRow where
  itemId : Int
  optionId : Int
  quantity : Int
  name : String
  price : Float

/-- One row of some table, named by its key. -/
inductive RowRef where
  | keyed (table : Table) (id : Int)
  | link (menuItemId modifierId : Int)
  | selection (itemId optionId : Int)
  deriving DecidableEq

/-- The largest key a row can be read back with: keys are read into 32-bit signed integers,
though the engine stores larger ones. -/
def keyLimit : Int := 2147483647

/-- The first key column of a row that is too large to read back, if any. -/
def RowRef.oversizedColumn? : RowRef → Option String
  | .keyed _ k => if k ≤ keyLimit then none else some "id"
  | .link m g =>
    if keyLimit < m then some "menu_item_id" else if keyLimit < g then some "modifier_id" else none
  | .selection i o =>
    if keyLimit < i then some "order_item_id"
    else if keyLimit < o then some "modifier_option_id" else none

/-- The table a row belongs to. -/
def RowRef.table : RowRef → Table
  | .keyed t _ => t
  | .link .. => .menuItemModifier
  | .selection .. => .orderItemOption

/-- The id of a row of a table keyed by id; only such rows are referenced. -/
def RowRef.id? : RowRef → Option Int
  | .keyed _ n => some n
  | _ => none

end OrderDesk.Store
