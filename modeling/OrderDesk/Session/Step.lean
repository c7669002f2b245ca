import OrderDesk.Store.Factory
import OrderDesk.Http.Message
import OrderDesk.Order.Form

/-!
# Sessions and their steps

A session is one running instance of the service over its own store, set up for trying
requests against. Its tables come either from the service's migrations or straight from the row
definitions, in a chosen order and possibly incomplete; then a catalog is loaded, and the
configuration is read.

After that it runs steps, one after another, each seeing what the ones before it left: requests
over HTTP, calls of the order service, reads and changes of catalog rows, rows made by the
factories, and closing the store.
-/

namespace OrderDesk.Session

open Store

/-- How a session's tables are made. -/
inductive Layout where
  /-- By the service's migrations. -/
  | migrated
  /-- Table by table from the row definitions, in this order, without the migration log. -/
  | tables (ts : List Table)

/-- A row to make with a factory; what is not given takes the factory's default. -/
inductive Make where
  | restaurant (name? currency? : Option String)
  | menuItem (restaurantId : Int) (name? : Option String) (price? : Option Float)
      (available? : Option Bool)
  | group (restaurantId : Int) (name? : Option String) (required? multiSelect? : Option Bool)
      (max? : Option Int)
  | attach (link : Link)
  | option (groupId : Int) (name? : Option String) (price? : Option Float)
      (available? preSelect? : Option Bool)
  | order (restaurantId : Int) (orderType? : Option OrderType) (orderStatus? : Option OrderStatus)
      (paymentStatus? : Option PaymentStatus) (createdAt? : Option Instant)
  | orderItem (orderId menuItemId quantity : Int)
  | withDependencies

/-- A change of one catalog row. -/
inductive Change where
  | menuItem (id : Int) (c : MenuItemChange)
  | group (id : Int) (c : GroupChange)
  | option (id : Int) (c : OptionChange)

/-- One step of a session. -/
inductive Step where
  /-- A request to the service over HTTP. -/
  | http (req : Http.Request)
  /-- An order created by the service, without the checks of a request body. -/
  | create (req : OrderRequest)
  | get (id : Int)
  | list (restaurantId : Int) (page perPage : Nat)
  | update (id : Int) (patch : OrderPatch)
  | delete (id : Int)
  /-- The menu items with the ids, strictly, with their groups when asked. -/
  | menuItems (ids : List Int) (withGroups : Bool)
  /-- The modifier options with the ids, strictly. -/
  | options (ids : List Int)
  | count
  /-- More catalog rows, loaded as at setup. -/
  | insert (rows : CatalogRows)
  | change (c : Change)
  | remove (row : RowRef)
  | make (m : Make)
  /-- The keys of the rows of table `target` that the schema relates to the row. -/
  | related (row : RowRef) (target : Table)
  | schema
  | close

/-- Whether the step makes a row with a factory. -/
def Step.isMake : Step → Bool
  | .make _ => true
  | _ => false

end OrderDesk.Session
